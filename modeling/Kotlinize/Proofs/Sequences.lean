/-!
# Lists and strings

Code is put together from pieces and taken apart again. The facts about lists and strings that this
rests on, and that are about nothing else, are collected here.

A list that is split holds in its pieces what it held before, without the separator
(`List.mem_and_ne_of_mem_splitOn`). A string that is joined or intercalated has what all its parts
have, if that survives one more part (`String.join_induction`, `String.intercalate_induction`).
-/

namespace List

variable {α : Type}

/-! ## Splitting

Splitting puts one element after another in front of the first piece, and begins a
new piece at every separator; the induction follows it. -/

/-- **What stands between separators** stood in the list, and is no separator. -/
theorem mem_and_ne_of_mem_splitOn [BEq α] [LawfulBEq α] {a separator : α} {l piece : List α}
    (hpiece : piece ∈ l.splitOn separator) (ha : a ∈ piece) : a ∈ l ∧ a ≠ separator := by
  induction l generalizing piece with
  | nil =>
    rw [splitOn_nil, mem_singleton] at hpiece
    rw [hpiece] at ha
    exact absurd ha not_mem_nil
  | cons b l ih =>
    -- either a piece of the rest, or the first of these with one more element in front
    rw [splitOn_cons_eq_if_modifyHead] at hpiece
    split at hpiece
    · rcases mem_cons.mp hpiece with rfl | hpiece
      · exact absurd ha not_mem_nil
      · exact (ih hpiece ha).imp_left (mem_cons_of_mem b)
    · rename_i hne
      obtain ⟨first, rest, heq⟩ := exists_cons_of_ne_nil (splitOn_ne_nil separator l)
      rw [heq] at ih
      rw [heq, modifyHead_cons] at hpiece
      rcases mem_cons.mp hpiece with rfl | hpiece
      · rcases mem_cons.mp ha with rfl | ha
        · exact ⟨mem_cons_self, fun h => hne (beq_iff_eq.mpr h)⟩
        · exact (ih mem_cons_self ha).imp_left (mem_cons_of_mem b)
      · exact (ih (mem_cons_of_mem first hpiece) ha).imp_left (mem_cons_of_mem b)

/-- The pieces between separators hold no separator. -/
theorem notMem_of_mem_splitOn [BEq α] [LawfulBEq α] {separator : α} {l piece : List α}
    (h : piece ∈ l.splitOn separator) : separator ∉ piece :=
  fun hmem => (mem_and_ne_of_mem_splitOn h hmem).2 rfl

/-- **An element of a list has a part of the list on either side.** -/
theorem eq_take_append_cons_drop {l : List α} {i : Nat} {a : α} (h : l[i]? = some a) :
    l = l.take i ++ a :: l.drop (i + 1) := by
  obtain ⟨hi, rfl⟩ := getElem?_eq_some_iff.mp h
  rw [getElem_cons_drop, take_append_drop]

/-! ## Pairs by their keys -/

/-- Where the keys are distinct, every pair is found by its key. -/
theorem lookup_of_mem {β : Type} [BEq α] [LawfulBEq α] {pairs : List (α × β)}
    (hnodup : (pairs.map Prod.fst).Nodup) {key : α} {b : β} (hmem : (key, b) ∈ pairs) :
    pairs.lookup key = some b := by
  induction pairs with
  | nil => cases hmem
  | cons pair rest ih =>
    rw [map_cons, nodup_cons] at hnodup
    cases hmem with
    | head => rw [lookup_cons_self]
    | tail _ hmem =>
      have hne : key ≠ pair.1 := fun h => hnodup.1 (h ▸ mem_map_of_mem hmem)
      rw [lookup_cons, beq_false_of_ne hne]
      exact ih hnodup.2 hmem

/-- What is found stands in the list, with the key that it was found by. -/
theorem mem_of_lookup {β : Type} [BEq α] [LawfulBEq α] {pairs : List (α × β)} {key : α} {b : β}
    (h : pairs.lookup key = some b) : (key, b) ∈ pairs := by
  obtain ⟨pre, post, rfl, _⟩ := lookup_eq_some_iff.mp h
  exact mem_append_right pre mem_cons_self

/-! ## The last element -/

theorem getLast?_append_of_eq_some {a : α} {l : List α} (h : l.getLast? = some a) (l' : List α) :
    (l' ++ l).getLast? = some a := by
  rw [getLast?_append, h, Option.some_or]

theorem getLast?_ne_of_notMem {a : α} {l : List α} (h : a ∉ l) : l.getLast? ≠ some a :=
  fun hlast => h (mem_of_getLast? hlast)

end List

namespace String

/-! ## Joining

Both ways of joining are folds, over strings that may be empty. A property that the empty string has
and that one more part does not destroy is a property of the whole. -/

/-- **What holds of the parts holds of all of them together.** -/
theorem join_induction {P : String → Prop} (hempty : P "")
    (happend : ∀ s t, P s → P t → P (s ++ t)) {parts : List String} (h : ∀ s ∈ parts, P s) :
    P (String.join parts) := by
  induction parts with
  | nil =>
    rw [join_nil]
    exact hempty
  | cons s parts ih =>
    obtain ⟨hs, hparts⟩ := List.forall_mem_cons.mp h
    rw [join_cons]
    exact happend _ _ hs (ih hparts)

/-- **What holds of the parts holds of all of them with a separator in between.** -/
theorem intercalate_induction {P : String → Prop} {separator : String} (hempty : P "")
    (happend : ∀ s t, P s → P t → P (s ++ separator ++ t)) {parts : List String}
    (h : ∀ s ∈ parts, P s) : P (separator.intercalate parts) := by
  induction parts with
  | nil =>
    rw [intercalate_nil]
    exact hempty
  | cons s parts ih =>
    obtain ⟨hs, hparts⟩ := List.forall_mem_cons.mp h
    cases parts with
    | nil =>
      rw [intercalate_singleton]
      exact hs
    | cons next parts =>
      rw [intercalate_cons_cons]
      exact happend _ _ hs (ih hparts)

/-- All parts but the first come with the separator in front of them. -/
theorem intercalate_cons_eq_join (separator first : String) (rest : List String) :
    separator.intercalate (first :: rest) = first ++ String.join (rest.map (separator ++ ·)) := by
  induction rest generalizing first with
  | nil => simp
  | cons next rest ih =>
    rw [intercalate_cons_cons, ih, List.map_cons, join_cons, append_assoc, append_assoc]

end String
