import Kotlinize.Proofs.Descriptors

/-!
# JSON text is read back

The compact text of a JSON value is read as that value, whatever text comes after
it, as long as the value nests no deeper than the reader may look; of a deeper
value the reader says that it is nested too deeply. Both halves are one property
of a reader, `ReadsText`, and it passes from the elements of an array to the
array, and from the members of an object to the object, with one level more.

The values considered have no numbers in them (`Numberless`): a number ends only
where the text goes on with something else, and the text of a double is not
always read as the same double. Descriptors of types are numberless, so that a
type survives being handed over as text, up to the nesting limit exactly.
-/

namespace Kotlinize.Json

/-! ## Strings

The reader of strings is a machine that goes through the text once, and its states
remember how much of an escape was seen. Each character is escaped in one of three
ways, and from each the machine is back in its first state with the character in
hand. -/

theorem hexValue?_digitChar : ∀ d < 16, hexValue? (Nat.digitChar d) = some d := by
  decide

/-- One of the first three digits of a `\u` escape. -/
theorem stringRest_hex {high : Option Nat} {seen value d : Nat} {c : Char} {cs : List Char}
    (hc : hexValue? c = some d) (hseen : seen < 3) :
    stringRest (.hex high seen value) (c :: cs)
      = stringRest (.hex high (seen + 1) (value * 16 + d)) cs := by
  simp [stringRest, hc, hseen]

/-- The last digit of a `\u` escape below the surrogates. -/
theorem stringRest_hex_last {value d : Nat} {c : Char} {cs : List Char}
    (hc : hexValue? c = some d) (hsmall : value * 16 + d < 0xD800) :
    stringRest (.hex Option.none 3 value) (c :: cs)
      = prepend (Char.ofNat (value * 16 + d)) (stringRest .none cs) := by
  have hlow : ¬(0xDC00 ≤ value * 16 + d ∧ value * 16 + d ≤ 0xDFFF) := by omega
  have hhigh : ¬(0xD800 ≤ value * 16 + d ∧ value * 16 + d ≤ 0xDBFF) := by omega
  simp only [stringRest, hc, Nat.lt_irrefl, if_neg hlow, if_neg hhigh, if_false]

/-- An escaped control character is read as that character. -/
theorem stringRest_control {c : Char} (hc : c.toNat < 32) (cs : List Char) :
    stringRest .none ('\\' :: 'u' :: '0' :: '0' :: Nat.digitChar (c.toNat / 16)
        :: Nat.digitChar (c.toNat % 16) :: cs) = prepend c (stringRest .none cs) := by
  have hzero : hexValue? '0' = some 0 := by decide
  have hhigh := hexValue?_digitChar (c.toNat / 16) (by omega)
  have hlow := hexValue?_digitChar (c.toNat % 16) (by omega)
  show stringRest (.hex Option.none 0 0) _ = _
  rw [stringRest_hex hzero (by omega), stringRest_hex hzero (by omega),
    stringRest_hex hhigh (by omega), stringRest_hex_last hlow (by omega)]
  rw [show ((0 * 16 + 0) * 16 + 0) * 16 + c.toNat / 16 = c.toNat / 16 by omega,
    Nat.div_add_mod' c.toNat 16, Char.ofNat_toNat]

/-- **A character is read from its escaped form.** -/
theorem stringRest_escapedChar (c : Char) (cs : List Char) :
    stringRest .none (escapedChar c ++ cs) = prepend c (stringRest .none cs) := by
  by_cases hquote : c = '"'
  · rw [hquote]; rfl
  by_cases hbackslash : c = '\\'
  · rw [hbackslash]; rfl
  by_cases hn : c = '\n'
  · rw [hn]; rfl
  by_cases hr : c = '\r'
  · rw [hr]; rfl
  by_cases ht : c = '\t'
  · rw [ht]; rfl
  by_cases hb : c = '\x08'
  · rw [hb]; rfl
  by_cases hf : c = '\x0c'
  · rw [hf]; rfl
  unfold escapedChar
  rw [if_neg hquote, if_neg hbackslash, if_neg hn, if_neg hr, if_neg ht, if_neg hb, if_neg hf]
  by_cases hcontrol : c.toNat < 32
  · rw [if_pos hcontrol]
    exact stringRest_control hcontrol cs
  · rw [if_neg hcontrol]
    simp [stringRest, hquote, hbackslash, hcontrol]

/-- A string is read up to the quote that closes it. -/
theorem stringRest_escaped (s rest : List Char) :
    stringRest .none (s.flatMap escapedChar ++ '"' :: rest) = .ok (s, rest) := by
  induction s with
  | nil => rfl
  | cons c s ih =>
    rw [List.flatMap_cons, List.append_assoc, stringRest_escapedChar, ih]
    rfl

/-- **A string is read from its text.** -/
theorem string_escaped (s : String) (rest : List Char) :
    string (s.toList.flatMap escapedChar ++ '"' :: rest) = .ok (s, rest) := by
  unfold string
  rw [stringRest_escaped]
  show Except.ok (String.ofList s.toList, rest) = _
  rw [String.ofList_toList]

/-! ## Beginnings

Between the elements of an array the reader skips blanks and looks for the closing
bracket. A value begins with neither, so it is left to its own reader untouched. -/

/-- **A value without numbers** in it. -/
inductive Numberless : Json → Prop
  | null : Numberless .null
  | bool (b : Bool) : Numberless (.bool b)
  | str (s : String) : Numberless (.str s)
  | arr {vs : List Json} : (∀ v ∈ vs, Numberless v) → Numberless (.arr vs)
  | obj {ms : List (String × Json)} : (∀ m ∈ ms, Numberless m.2) → Numberless (.obj ms)

/-- **A text that begins as a value does**: with none of the characters that a reader of elements
skips or stops at. -/
def BeginsValue (cs : List Char) : Prop :=
  ∃ c rest, cs = c :: rest ∧ isBlank c = false ∧ c ≠ ']'

theorem BeginsValue.append {cs : List Char} (h : BeginsValue cs) (rest : List Char) :
    BeginsValue (cs ++ rest) := by
  obtain ⟨c, cs, rfl, hblank, hne⟩ := h
  exact ⟨c, cs ++ rest, rfl, hblank, hne⟩

theorem BeginsValue.skipBlanks_eq {cs : List Char} (h : BeginsValue cs) : skipBlanks cs = cs := by
  obtain ⟨c, rest, rfl, hblank, _⟩ := h
  exact List.dropWhile_cons_of_neg (by rw [hblank]; exact Bool.false_ne_true)

/-- The text of a value without numbers begins as a value does. -/
theorem Numberless.beginsValue {v : Json} (h : v.Numberless) : BeginsValue v.text := by
  cases h with
  | null => exact ⟨_, _, rfl, rfl, by decide⟩
  | bool b => cases b <;> exact ⟨_, _, rfl, rfl, by decide⟩
  | str s => exact ⟨_, _, rfl, rfl, by decide⟩
  | arr _ => exact ⟨_, _, rfl, rfl, by decide⟩
  | obj _ => exact ⟨_, _, rfl, rfl, by decide⟩

/-! ## How reading ends

The limit on nesting makes failure part of the statement: a deep value must be
refused, and for that reason. Both outcomes are carried through every composition at
once, so that the limit is never split off into a second induction. -/

/-- **How reading a nested thing ends** with so many levels allowed: with the thing and the text
after it if it nests no deeper, and otherwise with the complaint that it does. -/
structure Yields {α : Type} (nesting levels : Nat) (a : α) (rest : List Char)
    (result : Except Stop (α × List Char)) : Prop where
  ok : nesting ≤ levels → result = .ok (a, rest)
  tooNested : levels < nesting → ∃ left, result = .error ⟨.tooNested, left⟩

namespace Yields

variable {α β : Type} {nesting nesting' levels : Nat} {a : α} {b : β} {rest rest' : List Char}

/-- What nests nowhere is read with any number of levels. -/
theorem pure : Yields 0 levels a rest (.ok (a, rest)) where
  ok _ := rfl
  tooNested hlt := absurd hlt (Nat.not_lt_zero levels)

/-- One thing after another: the deeper of the two decides. -/
theorem bind {result : Except Stop (α × List Char)}
    {next : α × List Char → Except Stop (β × List Char)} (h : Yields nesting levels a rest result)
    (hnext : Yields nesting' levels b rest' (next (a, rest))) :
    Yields (max nesting nesting') levels b rest' (result >>= next) where
  ok hle := by
    rw [h.ok (Nat.le_trans (Nat.le_max_left _ _) hle)]
    exact hnext.ok (Nat.le_trans (Nat.le_max_right _ _) hle)
  tooNested hlt := by
    by_cases hfirst : nesting ≤ levels
    · rw [h.ok hfirst]
      exact hnext.tooNested (by omega)
    · obtain ⟨left, hleft⟩ := h.tooNested (Nat.lt_of_not_le hfirst)
      rw [hleft]
      exact ⟨left, rfl⟩

/-- What is made of the thing once it is read. -/
theorem map (f : α → β) {result : Except Stop (α × List Char)}
    (h : Yields nesting levels a rest result) :
    Yields nesting levels (f a) rest (result.map fun (a, rest) => (f a, rest)) where
  ok hle := by rw [h.ok hle]; rfl
  tooNested hlt := by
    obtain ⟨left, hleft⟩ := h.tooNested hlt
    exact ⟨left, by rw [hleft]; rfl⟩

/-- With one level more around it. -/
theorem succ {result : Except Stop (α × List Char)} (h : Yields nesting levels a rest result) :
    Yields (nesting + 1) (levels + 1) a rest result where
  ok hle := h.ok (Nat.le_of_succ_le_succ hle)
  tooNested hlt := h.tooNested (Nat.lt_of_succ_lt_succ hlt)

end Yields

/-- **A reader that reads the text of a value**, as far as so many levels allow. -/
def ReadsText (reader : Reader) (levels : Nat) (v : Json) : Prop :=
  ∀ rest, Yields v.depth levels v rest (reader (v.text ++ rest))

/-! ## Arrays

The reader of elements is bounded by a number of rounds, which the length of the
text always suffices for: every element has at least one character. -/

section Loops

variable {reader : Reader} {levels n : Nat}

theorem beginsValue_elementsText {v : Json} (h : v.Numberless) (vs : List Json) :
    BeginsValue (elementsText (v :: vs)) := by
  cases vs with
  | nil => exact h.beginsValue
  | cons w vs => exact h.beginsValue.append _

/-- A last element, before the closing bracket. -/
theorem yields_elements_last {v : Json} (hv : ReadsText reader levels v) (rest : List Char) :
    Yields (depthOfElements [v]) levels [v] rest
      (elements reader (n + 1) (v.text ++ ']' :: rest)) := by
  rw [elements, depthOfElements]
  exact (hv _).bind .pure

/-- An element before a comma and further elements. -/
theorem yields_elements_more {v : Json} {vs : List Json} {more rest : List Char}
    (hv : ReadsText reader levels v) (hbegins : BeginsValue more)
    (hmore : Yields (depthOfElements vs) levels vs rest (elements reader n more)) :
    Yields (depthOfElements (v :: vs)) levels (v :: vs) rest
      (elements reader (n + 1) (v.text ++ ',' :: more)) := by
  rw [elements, depthOfElements]
  refine (hv _).bind ?_
  have hcomma : skipBlanks (',' :: more) = ',' :: more := rfl
  have hskip := hbegins.skipBlanks_eq
  obtain ⟨c, more, rfl, _, hne⟩ := hbegins
  simp only [hcomma, hskip]
  split
  next hnil => cases hnil
  next hclose =>
    cases hclose
    exact absurd rfl hne
  next => exact hmore.map (v :: ·)

/-- **The elements of an array are read from their text.** -/
theorem yields_elements {v : Json} {vs : List Json} (hplain : ∀ w ∈ v :: vs, w.Numberless)
    (hreads : ∀ w ∈ v :: vs, ReadsText reader levels w) (hn : vs.length < n) (rest : List Char) :
    Yields (depthOfElements (v :: vs)) levels (v :: vs) rest
      (elements reader n (elementsText (v :: vs) ++ ']' :: rest)) := by
  induction vs generalizing v n with
  | nil =>
    cases n with
    | zero => cases hn
    | succ n => exact yields_elements_last (hreads v List.mem_cons_self) rest
  | cons w vs ih =>
    cases n with
    | zero => cases hn
    | succ n =>
      have hmore := ih (fun x hx => hplain x (List.mem_cons_of_mem v hx))
        (fun x hx => hreads x (List.mem_cons_of_mem v hx)) (Nat.lt_of_succ_lt_succ hn)
      have hw : w.Numberless := hplain w (List.mem_cons_of_mem v List.mem_cons_self)
      rw [elementsText, List.append_assoc, List.cons_append]
      exact yields_elements_more (hreads v List.mem_cons_self)
        ((beginsValue_elementsText hw vs).append _) hmore

/-- There are enough rounds for all elements, since none of them has an empty text. -/
theorem length_lt_elementsText {v : Json} {vs : List Json} (hplain : ∀ w ∈ v :: vs, w.Numberless) :
    vs.length < (elementsText (v :: vs)).length := by
  induction vs generalizing v with
  | nil =>
    obtain ⟨c, rest, htext, _⟩ := (hplain v List.mem_cons_self).beginsValue
    rw [elementsText, htext]
    exact Nat.zero_lt_succ _
  | cons w vs ih =>
    have hrest := ih fun x hx => hplain x (List.mem_cons_of_mem v hx)
    rw [elementsText, List.length_append, List.length_cons, List.length_cons]
    omega

/-- **An array is read from its text**, after the opening bracket. -/
theorem yields_array {vs : List Json} (hplain : ∀ v ∈ vs, v.Numberless)
    (hreads : ∀ v ∈ vs, ReadsText reader levels v) (rest : List Char) :
    Yields (depthOfElements vs) levels (.arr vs) rest
      (array reader (elementsText vs ++ ']' :: rest)) := by
  cases vs with
  | nil => exact .pure
  | cons v vs =>
    have hbegins := (beginsValue_elementsText (hplain v List.mem_cons_self) vs).append (']' :: rest)
    -- the reader takes as many rounds as there are characters left
    have hn : vs.length < (elementsText (v :: vs) ++ ']' :: rest).length := by
      have hlt := length_lt_elementsText hplain
      rw [List.length_append]
      omega
    have helements := yields_elements hplain hreads hn rest
    have hskip := hbegins.skipBlanks_eq
    obtain ⟨c, more, htext, _, hne⟩ := hbegins
    rw [htext] at helements hskip ⊢
    simp only [array, hskip]
    split
    next hnil => cases hnil
    -- a value does not begin with the bracket that closes an empty array
    next hclose =>
      cases hclose
      exact absurd rfl hne
    next => exact helements.map Json.arr

/-! ## Objects

Members are read like elements, each after the opening quote of its key. The texts
below begin behind that quote, as the reader does. -/

/-- The text of a member after the opening quote of its key. -/
def memberRest (m : String × Json) : List Char :=
  m.1.toList.flatMap escapedChar ++ '"' :: ':' :: m.2.text

/-- **A member is read from its text.** -/
theorem yields_member {m : String × Json} (hreads : ReadsText reader levels m.2)
    (rest : List Char) :
    Yields m.2.depth levels m rest (member reader (memberRest m ++ rest)) := by
  unfold memberRest member
  rw [List.append_assoc, List.cons_append, string_escaped]
  show Yields _ _ _ _ (reader (m.2.text ++ rest) >>= fun p => .ok ((m.1, p.1), p.2))
  rw [← Nat.max_zero m.2.depth]
  exact (hreads rest).bind .pure

/-- A last member, before the closing brace. -/
theorem yields_members_last {m : String × Json} (hm : ReadsText reader levels m.2)
    (rest : List Char) :
    Yields (depthOfMembers [m]) levels [m] rest
      (members reader (n + 1) (memberRest m ++ '\x7d' :: rest)) := by
  rw [members, depthOfMembers]
  exact (yields_member hm _).bind .pure

/-- A member before a comma and further members. -/
theorem yields_members_more {m : String × Json} {ms : List (String × Json)}
    {more rest : List Char} (hm : ReadsText reader levels m.2)
    (hmore : Yields (depthOfMembers ms) levels ms rest (members reader n more)) :
    Yields (depthOfMembers (m :: ms)) levels (m :: ms) rest
      (members reader (n + 1) (memberRest m ++ ',' :: '"' :: more)) := by
  rw [members, depthOfMembers]
  exact (yields_member hm _).bind (hmore.map (m :: ·))

/-- The text of members after the opening quote of the first key. -/
def membersRest : String × Json → List (String × Json) → List Char
  | m, [] => memberRest m
  | m, l :: ms => memberRest m ++ ',' :: '"' :: membersRest l ms

theorem membersText_eq (m : String × Json) (ms : List (String × Json)) :
    membersText (m :: ms) = '"' :: membersRest m ms := by
  induction ms generalizing m with
  | nil =>
    unfold membersRest memberRest
    simp [membersText, stringText]
  | cons l ms ih =>
    unfold membersRest memberRest
    simp [membersText, stringText, ih]

/-- **The members of an object are read from their text.** -/
theorem yields_members {m : String × Json} {ms : List (String × Json)}
    (hreads : ∀ l ∈ m :: ms, ReadsText reader levels l.2) (hn : ms.length < n)
    (rest : List Char) :
    Yields (depthOfMembers (m :: ms)) levels (m :: ms) rest
      (members reader n (membersRest m ms ++ '\x7d' :: rest)) := by
  induction ms generalizing m n with
  | nil =>
    cases n with
    | zero => cases hn
    | succ n => exact yields_members_last (hreads m List.mem_cons_self) rest
  | cons l ms ih =>
    cases n with
    | zero => cases hn
    | succ n =>
      have hmore := ih (fun x hx => hreads x (List.mem_cons_of_mem m hx))
        (Nat.lt_of_succ_lt_succ hn)
      rw [membersRest, List.append_assoc]
      exact yields_members_more (hreads m List.mem_cons_self) hmore

/-- There are enough rounds for all members. -/
theorem length_le_membersRest (m : String × Json) (ms : List (String × Json)) :
    ms.length ≤ (membersRest m ms).length := by
  induction ms generalizing m with
  | nil => exact Nat.zero_le _
  | cons l ms ih =>
    have hrest := ih l
    rw [membersRest, List.length_append, List.length_cons, List.length_cons, List.length_cons]
    omega

/-- **An object is read from its text**, after the opening brace. -/
theorem yields_object {ms : List (String × Json)}
    (hreads : ∀ m ∈ ms, ReadsText reader levels m.2) (rest : List Char) :
    Yields (depthOfMembers ms) levels (.obj ms) rest
      (object reader (membersText ms ++ '\x7d' :: rest)) := by
  cases ms with
  | nil => exact .pure
  | cons m ms =>
    have hn : ms.length < (membersRest m ms ++ '\x7d' :: rest).length + 1 := by
      have hle := length_le_membersRest m ms
      rw [List.length_append]
      omega
    rw [membersText_eq]
    exact (yields_members hreads hn rest).map Json.obj

end Loops

/-! ## Values

A value is read by its first character. The induction over the value is the one over
`Numberless`; a level is spent where an array or an object is entered. -/

/-- What stands between two marks, with more text after them. -/
theorem enclosed_append (first last : Char) (inner rest : List Char) :
    first :: inner ++ [last] ++ rest = first :: (inner ++ last :: rest) :=
  congrArg (first :: ·) (List.append_assoc inner [last] rest)

/-- A text that begins with none of the opening brackets is no array and no object. -/
theorem value_eq_scalar {c : Char} (hblank : isBlank c = false) (hlist : c ≠ '[')
    (hobject : c ≠ '\x7b') (levels : Nat) (cs : List Char) :
    value levels (c :: cs) = scalar (c :: cs) := by
  have hskip : skipBlanks (c :: cs) = c :: cs :=
    List.dropWhile_cons_of_neg (by rw [hblank]; exact Bool.false_ne_true)
  cases levels with
  | zero =>
    rw [value, hskip]
    split
    next h => exact absurd (List.cons.inj h).1 hlist
    next h => exact absurd (List.cons.inj h).1 hobject
    next => rfl
  | succ n =>
    rw [value, hskip]
    split
    next h => exact absurd (List.cons.inj h).1 hlist
    next h => exact absurd (List.cons.inj h).1 hobject
    next => rfl

/-- **A value is read from its text**, if it nests no deeper than allowed. -/
theorem Numberless.readsText {v : Json} (h : v.Numberless) (levels : Nat) :
    ReadsText (value levels) levels v := by
  induction h generalizing levels with
  | null =>
    intro rest
    rw [show text .null ++ rest = 'n' :: "ull".toList ++ rest from rfl, List.cons_append,
      value_eq_scalar rfl (by decide) (by decide)]
    exact .pure
  | bool b =>
    intro rest
    cases b with
    | true =>
      rw [show text (.bool true) ++ rest = 't' :: "rue".toList ++ rest from rfl, List.cons_append,
        value_eq_scalar rfl (by decide) (by decide)]
      exact .pure
    | false =>
      rw [show text (.bool false) ++ rest = 'f' :: "alse".toList ++ rest from rfl,
        List.cons_append, value_eq_scalar rfl (by decide) (by decide)]
      exact .pure
  | str s =>
    intro rest
    have htext : text (.str s) ++ rest = '"' :: (s.toList.flatMap escapedChar ++ '"' :: rest) :=
      enclosed_append '"' '"' _ rest
    rw [htext, value_eq_scalar rfl (by decide) (by decide)]
    show Yields _ _ _ _ ((string _).map _)
    rw [string_escaped]
    exact .pure
  | @arr vs hplain ih =>
    intro rest
    have htext : text (.arr vs) ++ rest = '[' :: (elementsText vs ++ ']' :: rest) :=
      enclosed_append '[' ']' _ rest
    rw [htext, depth]
    cases levels with
    -- with no level left the array is too deep, whatever it holds
    | zero => exact ⟨fun hle => absurd hle (Nat.not_succ_le_zero _), fun _ => ⟨_, rfl⟩⟩
    | succ n => exact (yields_array hplain (fun v hv => ih v hv n) rest).succ
  | @obj ms hplain ih =>
    intro rest
    have htext : text (.obj ms) ++ rest = '\x7b' :: (membersText ms ++ '\x7d' :: rest) :=
      enclosed_append '\x7b' '\x7d' _ rest
    rw [htext, depth]
    cases levels with
    | zero => exact ⟨fun hle => absurd hle (Nat.not_succ_le_zero _), fun _ => ⟨_, rfl⟩⟩
    | succ n => exact (yields_object (fun m hm => ih m hm n) rest).succ

/-- **The compact text of a value is read as that value** if it nests at most as deep as texts
may. -/
theorem Numberless.parse_compact {v : Json} (h : v.Numberless) (hdepth : v.depth ≤ maxNesting) :
    parse v.compact = .ok v := by
  have hread := (h.readsText maxNesting []).ok hdepth
  unfold parse compact whole
  rw [String.toList_ofList]
  rw [List.append_nil] at hread
  rw [hread]
  rfl

/-- **The compact text of any other value is refused** as nested too deeply. -/
theorem Numberless.parse_compact_of_deep {v : Json} (h : v.Numberless)
    (hdepth : maxNesting < v.depth) :
    ∃ e : SyntaxError, e.cause = .tooNested ∧ parse v.compact = .error e := by
  obtain ⟨left, hread⟩ := (h.readsText maxNesting []).tooNested hdepth
  rw [List.append_nil] at hread
  refine ⟨Stop.locate ⟨.tooNested, left⟩ v.text, rfl, ?_⟩
  unfold parse compact whole
  rw [String.toList_ofList, hread]
  rfl

end Kotlinize.Json

/-! ## Types as text

A descriptor is written without numbers, since the kinds of its records are written
by name. So a type is read back from its text if it is read back from its
descriptor. -/

namespace Kotlinize.Java

open Json (Numberless)

/-- A member without numbers before others. -/
theorem numberless_cons {key : String} {v : Json} {ms : List (String × Json)} (hv : v.Numberless)
    (hms : ∀ m ∈ ms, m.2.Numberless) : ∀ m ∈ (key, v) :: ms, m.2.Numberless :=
  List.forall_mem_cons.mpr ⟨hv, hms⟩

theorem numberless_nil : ∀ m ∈ ([] : List (String × Json)), m.2.Numberless :=
  List.forall_mem_nil _

theorem numberless_ofOption {α : Type} {form : α → Json} (h : ∀ a, (form a).Numberless) :
    ∀ o : Option α, (Json.ofOption form o).Numberless
  | none => .null
  | some a => h a

theorem Reference.numberless_toJson : ∀ r : Reference, r.toJson.Numberless
  | ⟨name, none⟩ => .obj (numberless_cons (.str name) (numberless_cons .null numberless_nil))
  | ⟨name, some qualifier⟩ =>
    .obj (numberless_cons (.str name)
      (numberless_cons qualifier.numberless_toJson numberless_nil))

mutual

/-- **The descriptor of a type has no numbers.** -/
theorem Ty.numberless_toJson : ∀ t : Ty, t.toJson.Numberless
  | .primitive name =>
    .obj (numberless_cons (.str _) (numberless_cons (.str name) numberless_nil))
  | .array component =>
    .obj (numberless_cons (.str _) (numberless_cons component.numberless_toJson numberless_nil))
  | .classType c => .obj (numberless_cons (.str _) c.numberless_members)
  | .wildcard none => .obj (numberless_cons (.str _) (numberless_cons .null numberless_nil))
  | .wildcard (some bound) =>
    .obj (numberless_cons (.str _) (numberless_cons bound.numberless_toJson numberless_nil))
  | .ellipsis component =>
    .obj (numberless_cons (.str _) (numberless_cons component.numberless_toJson numberless_nil))

/-- The bound of a wildcard. -/
theorem Bound.numberless_toJson : ∀ b : Bound, b.toJson.Numberless
  | .upper t => .obj (numberless_cons t.numberless_toJson numberless_nil)
  | .lower t => .obj (numberless_cons t.numberless_toJson numberless_nil)

/-- The members of a class type, written beside its kind or as a record of their own. -/
theorem ClassTy.numberless_members : ∀ c : ClassTy, ∀ m ∈ c.members, m.2.Numberless
  | ⟨canonicalText, className, parameters, reference, none⟩ =>
    numberless_cons (.str canonicalText) (numberless_cons (numberless_ofOption .str className)
      (numberless_cons (.arr (Ty.numberless_allToJson parameters))
      (numberless_cons (numberless_ofOption Reference.numberless_toJson reference)
      (numberless_cons .null numberless_nil))))
  | ⟨canonicalText, className, parameters, reference, some declaration⟩ =>
    numberless_cons (.str canonicalText) (numberless_cons (numberless_ofOption .str className)
      (numberless_cons (.arr (Ty.numberless_allToJson parameters))
      (numberless_cons (numberless_ofOption Reference.numberless_toJson reference)
      (numberless_cons declaration.numberless_toJson numberless_nil))))

theorem Declaration.numberless_toJson : ∀ d : Declaration, d.toJson.Numberless
  | ⟨qualifiedName, typeParameters⟩ =>
    .obj (numberless_cons (numberless_ofOption .str qualifiedName)
      (numberless_cons (.arr (TypeParameter.numberless_allToJson typeParameters))
      numberless_nil))

theorem Ty.numberless_allToJson : ∀ ts : List Ty, ∀ v ∈ Ty.allToJson ts, v.Numberless
  | [] => List.forall_mem_nil _
  | t :: rest => List.forall_mem_cons.mpr ⟨t.numberless_toJson, Ty.numberless_allToJson rest⟩

theorem TypeParameter.numberless_allToJson : ∀ ps : List TypeParameter,
    ∀ v ∈ TypeParameter.allToJson ps, v.Numberless
  | [] => List.forall_mem_nil _
  | ⟨name, bounds⟩ :: rest =>
    List.forall_mem_cons.mpr ⟨.obj (numberless_cons (.str name) (numberless_cons
      (.arr (ClassTy.numberless_allToJson bounds)) numberless_nil)),
      TypeParameter.numberless_allToJson rest⟩

theorem ClassTy.numberless_allToJson : ∀ cs : List ClassTy,
    ∀ v ∈ ClassTy.allToJson cs, v.Numberless
  | [] => List.forall_mem_nil _
  | c :: rest =>
    List.forall_mem_cons.mpr ⟨.obj c.numberless_members, ClassTy.numberless_allToJson rest⟩

end

/-- **A type survives being handed over as text**, up to the nesting limit exactly: it is read back
if its descriptor nests at most 127 arrays and objects, and otherwise the text is refused as no
JSON that may be read, before it is looked at as a descriptor. -/
theorem type_text_read_back (t : Ty) :
    (t.toJson.depth ≤ 127 → readTypeText t.toJson.compact = .ok t)
      ∧ (128 ≤ t.toJson.depth → ∃ e : Json.SyntaxError,
          e.cause = .tooNested ∧ readTypeText t.toJson.compact = .error (.notJson e)) := by
  refine ⟨fun hdepth => ?_, fun hdepth => ?_⟩
  · have hparse := t.numberless_toJson.parse_compact hdepth
    unfold readTypeText
    rw [hparse]
    exact mapError_eq_ok.mpr (Ty.decoder_toJson .outer t)
  · obtain ⟨e, hcause, hparse⟩ := t.numberless_toJson.parse_compact_of_deep hdepth
    refine ⟨e, hcause, ?_⟩
    unfold readTypeText
    rw [hparse]
    rfl

/-- Each array type around a type adds one object to its descriptor. -/
theorem Ty.depth_toJson_arrays (t : Ty) (n : Nat) :
    (n.repeat Ty.array t).toJson.depth = t.toJson.depth + n := by
  induction n with
  | zero => rfl
  | succ n ih =>
    show (Ty.array (n.repeat Ty.array t)).toJson.depth = _
    simp [Ty.toJson, Json.depth, Json.depthOfMembers, ih, Nat.add_assoc]

/-- Arrays of arrays of a primitive type whose name needs escapes, on both sides of the limit. -/
theorem type_text_read_back_arrays :
    let nested (n : Nat) : Ty := n.repeat Ty.array (.primitive "\"\\\n\x01é😀")
    ((nested 126).toJson.depth ≤ 127
        ∧ readTypeText (nested 126).toJson.compact = .ok (nested 126))
      ∧ 128 ≤ (nested 127).toJson.depth
        ∧ ∃ e : Json.SyntaxError, e.cause = .tooNested
          ∧ readTypeText (nested 127).toJson.compact = .error (.notJson e) := by
  intro nested
  have hlow : (nested 126).toJson.depth ≤ 127 := by
    rw [Ty.depth_toJson_arrays]
    decide
  have hhigh : 128 ≤ (nested 127).toJson.depth := by
    rw [Ty.depth_toJson_arrays]
    decide
  exact ⟨⟨hlow, (type_text_read_back (nested 126)).1 hlow⟩, hhigh,
    (type_text_read_back (nested 127)).2 hhigh⟩

end Kotlinize.Java
