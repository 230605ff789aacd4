import Kotlinize.Proofs.Layouts
import Mathlib.Data.List.Nodup
import Mathlib.Logic.Relation

/-!
# The spellings of a descriptor

One descriptor can be written in many ways. The members of an object may stand
in any order; a record may have members that are none of its own; a member that
counts as its default may be left out or written out; and a record may be
written as the array of its members, in the order of its slots and with the kind
first. `Place.Respells` is one such change, anywhere in a value, and any number
of them leaves what is read as it was
(`respelled_descriptors_read_alike`).

The argument goes through the view of a record (`Place.keeps_of_kept`). A change
to a record does nothing to what its slots hold, and a change further inside
exchanges what one slot holds for what reads the same.
-/

namespace Kotlinize

namespace Json

/-! ## Members by key

Of several members with one key the last one counts. So the order of members matters
in general, and it does not where the keys are distinct. -/

variable {key k : String} {v : Json} {m m' : String × Json} {ms ms' pre post : List (String × Json)}

/-- The members that come later are asked first. -/
theorem get?_append (key : String) (ms ms' : List (String × Json)) :
    get? key (ms ++ ms') = (get? key ms').or (get? key ms) := by
  induction ms with
  | nil => exact Option.or_none.symm
  | cons m ms ih =>
    rw [List.cons_append, get?, get?, ih]
    cases get? key ms' with
    | some v => rfl
    | none => rfl

theorem get?_cons_of_ne (h : key ≠ k) : get? key ((k, v) :: ms) = get? key ms := by
  rw [get?, if_neg h.symm]
  cases get? key ms <;> rfl

/-- A member does not matter to the other keys. -/
theorem get?_insert_of_ne (h : key ≠ k) :
    get? key (pre ++ (k, v) :: post) = get? key (pre ++ post) := by
  rw [get?_append, get?_append, get?_cons_of_ne h]

/-- A member is found unless a later one has its key. -/
theorem get?_insert_self : get? key (pre ++ (key, v) :: post) = (get? key post).or (some v) := by
  have hcons : get? key ((key, v) :: post) = (get? key post).or (some v) := by
    rw [get?, if_pos rfl]
    cases get? key post <;> rfl
  rw [get?_append, hcons]
  cases get? key post <;> rfl

theorem get?_of_notMem (h : key ∉ ms.map Prod.fst) : get? key ms = none := by
  cases hget : get? key ms with
  | none => rfl
  | some v => exact absurd (List.mem_map_of_mem (mem_of_get? hget)) h

/-- Where the keys are distinct, every member is found. -/
theorem get?_of_mem (hnodup : (ms.map Prod.fst).Nodup) (h : (key, v) ∈ ms) :
    get? key ms = some v := by
  obtain ⟨pre, post, rfl⟩ := List.append_of_mem h
  rw [List.map_append, List.nodup_append, List.map_cons, List.nodup_cons] at hnodup
  rw [get?_insert_self, get?_of_notMem hnodup.2.1.1]
  rfl

/-- **The order of the members does not matter**, as long as their keys are distinct. -/
theorem get?_perm (hnodup : (ms.map Prod.fst).Nodup) (h : ms.Perm ms') (key : String) :
    get? key ms = get? key ms' := by
  have hnodup' : (ms'.map Prod.fst).Nodup := (h.map Prod.fst).nodup_iff.mp hnodup
  cases hget : get? key ms with
  | some v => exact (get?_of_mem hnodup' (h.mem_iff.mp (mem_of_get? hget))).symm
  | none =>
    cases hget' : get? key ms' with
    | none => rfl
    | some v =>
      rw [get?_of_mem hnodup (h.mem_iff.mpr (mem_of_get? hget'))] at hget
      cases hget

/-- Two members with distinct keys leave no sole one. -/
theorem sole?_eq_none (hnodup : ((m :: m' :: ms).map Prod.fst).Nodup) :
    sole? (m :: m' :: ms) = none := by
  have hne : m'.1 ≠ m.1 := by
    intro h
    rw [List.map_cons, List.map_cons, List.nodup_cons, h] at hnodup
    exact hnodup.1 List.mem_cons_self
  rw [sole?, if_neg]
  simp [hne]

/-- The order of the members does not matter to a sole key either. -/
theorem sole?_perm (hnodup : (ms.map Prod.fst).Nodup) (h : ms.Perm ms') :
    sole? ms = sole? ms' := by
  have hnodup' : (ms'.map Prod.fst).Nodup := (h.map Prod.fst).nodup_iff.mp hnodup
  match ms, ms' with
  | [], ms' => rw [List.nil_perm.mp h]
  | [m], ms' => rw [List.singleton_perm.mp h]
  | m :: m' :: ms, [] => cases h.length_eq
  | m :: m' :: ms, [l] => cases h.length_eq
  | m :: m' :: ms, l :: l' :: ms' => rw [sole?_eq_none hnodup, sole?_eq_none hnodup']

end Json

/-! ## Exchanges under a decoder

How a decoder takes to a change depends on what it looks at: one that looks up keys
does not see their order, and one that reads elements one by one sees nothing but
what each of them is read as. -/

namespace Decoder

variable {α : Type} {d : Decoder α} {scope : Scope} {v w : Json}

section Order

variable {ms ms' : List (String × Json)}

/-- A record looks its fields up by key. -/
theorem record_perm (hnodup : (ms.map Prod.fst).Nodup) (hperm : ms.Perm ms') (r : Record α) :
    record r scope (.obj ms) = record r scope (.obj ms') := by
  show r.fields.ofObject scope ms = r.fields.ofObject scope ms'
  unfold Fields.ofObject
  rw [funext (Json.get?_perm hnodup hperm)]

/-- A tagged record looks up its kind as well. -/
theorem tagged_perm (hnodup : (ms.map Prod.fst).Nodup) (hperm : ms.Perm ms') (name : String)
    (cases : List (String × Record α)) :
    tagged name cases scope (.obj ms) = tagged name cases scope (.obj ms') := by
  unfold tagged Fields.ofObject
  dsimp only
  rw [Json.get?_perm hnodup hperm, funext (Json.get?_perm hnodup hperm)]

/-- A variant asks for a sole key. -/
theorem variant_perm (hnodup : (ms.map Prod.fst).Nodup) (hperm : ms.Perm ms')
    (cases : List (String × Payload α)) :
    variant cases scope (.obj ms) = variant cases scope (.obj ms') := by
  unfold variant
  dsimp only
  rw [Json.sole?_perm hnodup hperm]

end Order

/-- **One element of a list is exchanged** for another that reads the same. -/
theorem list_exchange {pre post : List Json} {as : List α}
    (h : ∀ a, d scope v = .ok a → d scope w = .ok a)
    (hread : list d scope (.arr (pre ++ v :: post)) = .ok as) :
    list d scope (.arr (pre ++ w :: post)) = .ok as := by
  unfold list at hread ⊢
  dsimp only at hread ⊢
  rw [List.mapM_append, List.mapM_cons] at hread ⊢
  simp only [bind_eq_ok] at hread ⊢
  obtain ⟨before, hbefore, rest, ⟨a, ha, hrest⟩, has⟩ := hread
  exact ⟨before, hbefore, rest, ⟨a, h a ha, hrest⟩, has⟩

/-- An optional value is exchanged. Neither may be `null`, which is read without
asking the decoder of the values. -/
theorem nullable_exchange {o : Option α} (hv : v ≠ .null) (hw : w ≠ .null)
    (h : ∀ a, d scope v = .ok a → d scope w = .ok a)
    (hread : nullable d scope v = .ok o) : nullable d scope w = .ok o := by
  rw [nullable_eq_map hv] at hread
  obtain ⟨a, ha, rfl⟩ := map_eq_ok.mp hread
  exact nullable_of_ne_null hw (h a ha)

end Decoder

namespace Java

/-! ## Changes of spelling

A change is made at one place in the descriptor, and the constructors for changes
further inside say how to get there. Which members are a record's own depends on
what stands at the place, and for a tagged record on the kind that it gives. -/

/-- **One change of spelling** of what stands at a place. Where a value is no record, list or
bound, its members can be reordered at most. -/
inductive Place.Respells : Place → Json → Json → Prop
  /-- The members of an object are put in another order. -/
  | reorder {p : Place} {ms ms' : List (String × Json)} :
      (ms.map Prod.fst).Nodup → ms.Perm ms' → Respells p (.obj ms) (.obj ms')
  /-- A record gains a member that is none of its own. -/
  | insert {p : Place} (pre post : List (String × Json)) {slots : List Slot} (key : String)
      (v : Json) :
      p.slots (.obj (pre ++ post)) = some slots → key ∉ slots.map Slot.key →
      Respells p (.obj (pre ++ post)) (.obj (pre ++ (key, v) :: post))
  /-- A member of a record that is none of its own changes in whatever way. -/
  | unread {p : Place} (pre post : List (String × Json)) {slots : List Slot} {key : String}
      {v w : Json} :
      p.slots (.obj (pre ++ (key, v) :: post)) = some slots → key ∉ slots.map Slot.key →
      Respells p (.obj (pre ++ (key, v) :: post)) (.obj (pre ++ (key, w) :: post))
  /-- A member that is its default is left out. -/
  | leaveOut {p : Place} (pre post : List (String × Json)) {slots : List Slot} (s : Slot)
      {v : Json} :
      p.slots (.obj (pre ++ (s.key, v) :: post)) = some slots → s ∈ slots → s.default = some v →
      s.key ∉ (pre ++ post).map Prod.fst →
      Respells p (.obj (pre ++ (s.key, v) :: post)) (.obj (pre ++ post))
  /-- A member that is absent is written out as its default. -/
  | writeOut {p : Place} (pre post : List (String × Json)) {slots : List Slot} (s : Slot)
      {v : Json} :
      p.slots (.obj (pre ++ post)) = some slots → s ∈ slots → s.default = some v →
      s.key ∉ (pre ++ post).map Prod.fst →
      Respells p (.obj (pre ++ post)) (.obj (pre ++ (s.key, v) :: post))
  /-- A record becomes the array of what its slots hold. -/
  | toArray {p : Place} {ms : List (String × Json)} {slots : List Slot} (vs : List Json) :
      p.slots (.obj ms) = some slots →
      slots.map (fun s => s.held (Json.get? · ms)) = vs.map some →
      Respells p (.obj ms) (.arr vs)
  /-- A change inside a member of an object. -/
  | member {p : Place} (pre post : List (String × Json)) {slots : List Slot} (s : Slot)
      {v w : Json} :
      p.slots (.obj (pre ++ (s.key, v) :: post)) = some slots → s ∈ slots →
      Respells s.place v w →
      Respells p (.obj (pre ++ (s.key, v) :: post)) (.obj (pre ++ (s.key, w) :: post))
  /-- A change inside a member of a record that is written as an array. -/
  | element {p : Place} (pre post : List Json) {slots : List Slot} {s : Slot} {v w : Json} :
      p.slots (.arr (pre ++ v :: post)) = some slots → slots[pre.length]? = some s →
      Respells s.place v w →
      Respells p (.arr (pre ++ v :: post)) (.arr (pre ++ w :: post))
  /-- A change inside an optional value that is there. -/
  | nullable {p : Place} {v w : Json} : Respells p v w → Respells (.nullable p) v w
  /-- A change inside an element of a list. -/
  | list {p : Place} (pre post : List Json) {v w : Json} :
      Respells p v w → Respells (.list p) (.arr (pre ++ v :: post)) (.arr (pre ++ w :: post))
  /-- A change inside the type of a bound. -/
  | bound {key : String} {v w : Json} :
      Respells .type v w → Respells .bound (.obj [(key, v)]) (.obj [(key, w)])

/-! ## What a change keeps

Changes to a record itself are matters of lookup: the view of the record before and
after is compared key by key. For changes further inside the induction hypothesis
says that one value reads like the other, and it remains to find both in the two
views. -/

variable {p : Place} {v w : Json} {slots : List Slot} {s : Slot}

/-- **The order of the members of an object does not matter** to any decoder. -/
theorem Place.decoder_perm {ms ms' : List (String × Json)} (hnodup : (ms.map Prod.fst).Nodup)
    (hperm : ms.Perm ms') (p : Place) (scope : Scope) :
    p.decoder scope (.obj ms) = p.decoder scope (.obj ms') := by
  induction p with
  | text => rfl
  | flag => rfl
  | kind => rfl
  | literal => exact Decoder.variant_perm hnodup hperm _
  | reference =>
    rw [decoder, Reference.decoder_eq]
    exact Decoder.record_perm hnodup hperm _
  | typeParameter => exact Decoder.record_perm hnodup hperm _
  | declaration => exact Decoder.record_perm hnodup hperm _
  | classType =>
    rw [decoder, ClassTy.decoder_eq]
    exact Decoder.record_perm hnodup hperm _
  | bound => exact Decoder.variant_perm hnodup hperm _
  | type =>
    rw [decoder, Ty.decoder_eq]
    exact Decoder.tagged_perm hnodup hperm _ _
  | expr =>
    rw [decoder, Expr.decoder_eq]
    exact Decoder.tagged_perm hnodup hperm _ _
  | nullable p ih =>
    show (p.decoder scope (.obj ms)).map some = (p.decoder scope (.obj ms')).map some
    rw [ih]
  | list p ih => rfl

/-- A slot is known by its key. -/
theorem Place.slot_eq_of_key_eq (hslots : p.slots v = some slots) {s t : Slot} (hs : s ∈ slots)
    (ht : t ∈ slots) (hkey : s.key = t.key) : s = t :=
  List.inj_on_of_nodup_map (nodup_slots hslots) hs ht hkey

theorem Slot.key_ne_of_mem {key : String} (hkey : key ∉ slots.map Slot.key) (hs : s ∈ slots) :
    s.key ≠ key :=
  fun h => hkey (h ▸ List.mem_map_of_mem hs)

/-- A member that is the default of its slot is what the slot holds without it. -/
theorem Place.held_default {pre post : List (String × Json)} {u : Json}
    (hslots : p.slots u = some slots) (hs : s ∈ slots) (hdefault : s.default = some v)
    (habsent : s.key ∉ (pre ++ post).map Prod.fst) {t : Slot} (ht : t ∈ slots) :
    t.held (Json.get? · (pre ++ (s.key, v) :: post)) = t.held (Json.get? · (pre ++ post)) := by
  unfold Slot.held
  dsimp only
  by_cases hkey : t.key = s.key
  · cases slot_eq_of_key_eq hslots ht hs hkey
    have hpost : s.key ∉ post.map Prod.fst := fun hmem =>
      habsent (List.map_append ▸ List.mem_append_right _ hmem)
    rw [Json.get?_insert_self, Json.get?_of_notMem hpost, Json.get?_of_notMem habsent, hdefault]
    rfl
  · rw [Json.get?_insert_of_ne hkey]

/-- What the slots hold stands in the array of it, each at its position. -/
theorem byPosition_of_held {get : String → Option Json} {vs : List Json}
    (hnodup : (slots.map Slot.key).Nodup) (hheld : slots.map (·.held get) = vs.map some)
    (hs : s ∈ slots) : byPosition slots vs s.key = s.held get := by
  induction slots generalizing vs with
  | nil => cases hs
  | cons t slots ih =>
    rw [List.map_cons, List.nodup_cons] at hnodup
    cases vs with
    | nil => cases hheld
    | cons v vs =>
      rw [List.map_cons, List.map_cons, List.cons.injEq] at hheld
      cases hs with
      | head => rw [byPosition_cons_self, hheld.1]
      | tail _ hs =>
        have hne : s.key ≠ t.key := fun hkey => hnodup.1 (hkey ▸ List.mem_map_of_mem hs)
        rw [byPosition_cons_of_ne hne, ih hnodup.2 hheld.2 hs]

/-- The element at the position of a slot. -/
theorem byPosition_of_getElem? {pre post : List Json} (hnodup : (slots.map Slot.key).Nodup)
    (hs : slots[pre.length]? = some s) : byPosition slots (pre ++ v :: post) s.key = some v := by
  induction pre generalizing slots with
  | nil =>
    cases slots with
    | nil => cases hs
    | cons t slots =>
      cases hs
      exact byPosition_cons_self
  | cons u pre ih =>
    cases slots with
    | nil => cases hs
    | cons t slots =>
      rw [List.map_cons, List.nodup_cons] at hnodup
      have hs : slots[pre.length]? = some s := hs
      have hne : s.key ≠ t.key := fun hkey =>
        hnodup.1 (hkey ▸ List.mem_map_of_mem (List.mem_of_getElem? hs))
      rw [List.cons_append, byPosition_cons_of_ne hne, ih hnodup.2 hs]

/-- The element at the position of a slot does not matter to the other keys. -/
theorem byPosition_of_ne {pre post : List Json} {key : String}
    (hs : slots[pre.length]? = some s) (hkey : key ≠ s.key) :
    byPosition slots (pre ++ v :: post) key = byPosition slots (pre ++ w :: post) key := by
  induction pre generalizing slots with
  | nil =>
    cases slots with
    | nil => cases hs
    | cons t slots =>
      cases hs
      exact (byPosition_cons_of_ne hkey).trans (byPosition_cons_of_ne hkey).symm
  | cons u pre ih =>
    cases slots with
    | nil => cases hs
    | cons t slots =>
      have hs : slots[pre.length]? = some s := hs
      rw [List.cons_append, List.cons_append, byPosition, byPosition, ih hs]

/-- A slot whose member is exchanged for what reads the same. -/
theorem Slot.Kept.of_get {get get' : String → Option Json} (hget : get s.key = some v)
    (hget' : get' s.key = some w) (hkeeps : s.place.Keeps v w) : s.Kept get get' := by
  unfold Slot.Kept Slot.held
  rw [hget, hget']
  rintro _ ⟨⟩
  exact ⟨w, rfl, hkeeps⟩

/-- A change inside a member keeps the slots. -/
theorem Place.keeps_member {pre post : List (String × Json)}
    (hslots : p.slots (.obj (pre ++ (s.key, v) :: post)) = some slots) (hs : s ∈ slots)
    (hkeeps : s.place.Keeps v w) :
    p.Keeps (.obj (pre ++ (s.key, v) :: post)) (.obj (pre ++ (s.key, w) :: post)) := by
  refine keeps_of_kept hslots (fun _ => trivial) fun t ht => ?_
  show t.Kept (Json.get? · (pre ++ (s.key, v) :: post)) (Json.get? · (pre ++ (s.key, w) :: post))
  by_cases hkey : t.key = s.key
  · cases slot_eq_of_key_eq hslots ht hs hkey
    have hget : ∀ u, Json.get? s.key (pre ++ (s.key, u) :: post)
        = (Json.get? s.key post).or (some u) := fun _ => Json.get?_insert_self
    -- where the key is repeated the last member counts, and that one has not changed
    cases hpost : Json.get? s.key post with
    | none => exact .of_get (by rw [hget, hpost]; rfl) (by rw [hget, hpost]; rfl) hkeeps
    | some u => exact .of_get_eq (by rw [hget, hget, hpost]; rfl)
  · exact .of_get_eq ((Json.get?_insert_of_ne hkey).trans (Json.get?_insert_of_ne hkey).symm)

/-- A change inside an element keeps the slots. -/
theorem Place.keeps_element {pre post : List Json}
    (hslots : p.slots (.arr (pre ++ v :: post)) = some slots) (hs : slots[pre.length]? = some s)
    (hkeeps : s.place.Keeps v w) : p.Keeps (.arr (pre ++ v :: post)) (.arr (pre ++ w :: post)) := by
  have hnodup := nodup_slots hslots
  refine keeps_of_kept hslots (fun hfits => ?_) fun t ht => ?_
  · have hlength : (pre ++ v :: post).length ≤ slots.length := hfits
    show (pre ++ w :: post).length ≤ slots.length
    rwa [List.length_append, List.length_cons] at hlength ⊢
  · by_cases hkey : t.key = s.key
    · cases slot_eq_of_key_eq hslots ht (List.mem_of_getElem? hs) hkey
      exact .of_get (byPosition_of_getElem? hnodup hs) (byPosition_of_getElem? hnodup hs) hkeeps
    · exact .of_get_eq (byPosition_of_ne hs hkey)

/-- A bound is read as what its type is read as. -/
theorem Bound.decoder_obj {key : String} {scope : Scope} {b : Bound} :
    Bound.decoder Ty.decoder scope (.obj [(key, v)]) = .ok b
      ↔ ∃ t, Ty.decoder scope v = .ok t
        ∧ (key = "extends" ∧ .upper t = b ∨ key = "super" ∧ .lower t = b) := by
  show (Decoder.choose key _ >>= fun p => Decoder.payload p scope v) = _ ↔ _
  by_cases hupper : key = "extends"
  · subst hupper
    show (Ty.decoder scope v).map Bound.upper = _ ↔ _
    simp [map_eq_ok]
  · by_cases hlower : key = "super"
    · subst hlower
      show (Ty.decoder scope v).map Bound.lower = _ ↔ _
      simp [map_eq_ok]
    · unfold Decoder.choose
      rw [List.lookup_cons, beq_false_of_ne hupper, List.lookup_cons, beq_false_of_ne hlower]
      simp [hupper, hlower, bind, Except.bind]

/-- A change inside the type of a bound keeps the bound. -/
theorem Place.keeps_bound {key : String} (hkeeps : Place.type.Keeps v w) :
    Place.bound.Keeps (.obj [(key, v)]) (.obj [(key, w)]) := by
  intro scope b hread
  obtain ⟨t, ht, hkey⟩ := Bound.decoder_obj.mp hread
  exact Bound.decoder_obj.mpr ⟨t, hkeeps scope t ht, hkey⟩

namespace Place.Respells

/-- Only objects and arrays have another spelling, and it is an object or an array again. -/
theorem ne_null (h : p.Respells v w) : v ≠ .null ∧ w ≠ .null := by
  induction h with
  | nullable _ ih => exact ih
  | _ => exact ⟨Json.noConfusion, Json.noConfusion⟩

/-- **A change of spelling changes nothing** of what is read at a place. -/
theorem keeps (h : p.Respells v w) : p.Keeps v w := by
  induction h with
  | reorder hnodup hperm => exact fun scope a hread => decoder_perm hnodup hperm _ scope ▸ hread
  | insert _ _ _ _ hslots hkey =>
    refine keeps_of_kept hslots (fun _ => trivial) fun t ht => .of_get_eq ?_
    exact (Json.get?_insert_of_ne (Slot.key_ne_of_mem hkey ht)).symm
  | unread _ _ hslots hkey =>
    refine keeps_of_kept hslots (fun _ => trivial) fun t ht => .of_get_eq ?_
    have hne := Slot.key_ne_of_mem hkey ht
    exact (Json.get?_insert_of_ne hne).trans (Json.get?_insert_of_ne hne).symm
  | leaveOut _ _ _ hslots hs hdefault habsent =>
    exact keeps_of_kept hslots (fun _ => trivial) fun t ht =>
      .of_held_eq (held_default hslots hs hdefault habsent ht)
  | writeOut _ _ _ hslots hs hdefault habsent =>
    exact keeps_of_kept hslots (fun _ => trivial) fun t ht =>
      .of_held_eq (held_default hslots hs hdefault habsent ht).symm
  | @toArray p ms slots vs hslots hheld =>
    have hlength : vs.length = slots.length := by
      simpa using (congrArg List.length hheld).symm
    refine keeps_of_kept hslots (fun _ => Nat.le_of_eq hlength) fun t ht => .of_held_eq ?_
    show t.held (Json.get? · ms) = (byPosition slots vs t.key).or t.default
    rw [byPosition_of_held (nodup_slots hslots) hheld ht, Slot.held, Option.or_assoc,
      Option.or_self]
  | member _ _ _ hslots hs _ ih => exact keeps_member hslots hs ih
  | element _ _ hslots hs _ ih => exact keeps_element hslots hs ih
  | nullable h ih =>
    exact fun scope a => Decoder.nullable_exchange h.ne_null.1 h.ne_null.2 (ih scope)
  | list _ _ _ ih => exact fun scope as => Decoder.list_exchange (ih scope)
  | bound _ ih => exact keeps_bound ih

/-- Nor does any number of changes. -/
theorem keeps_of_reflTransGen (h : Relation.ReflTransGen p.Respells v w) : p.Keeps v w := by
  induction h with
  | refl => exact fun _ _ hread => hread
  | tail _ hstep ih => exact fun scope a hread => hstep.keeps scope a (ih scope a hread)

end Place.Respells

/-! ## Whole descriptors -/

/-- **All spellings of a descriptor are read alike.** -/
theorem respelled_descriptors_read_alike :
    (∀ {v w : Json} {t : Ty}, Relation.ReflTransGen Place.type.Respells v w →
        readType v = .ok t → readType w = .ok t)
      ∧ (∀ {v w : Json} {e : Expr}, Relation.ReflTransGen Place.expr.Respells v w →
        readExpr v = .ok e → readExpr w = .ok e) := by
  constructor
  · intro v w t h hread
    exact mapError_eq_ok.mpr (Place.Respells.keeps_of_reflTransGen h _ t (mapError_eq_ok.mp hread))
  · intro v w e h hread
    exact mapError_eq_ok.mpr (Place.Respells.keeps_of_reflTransGen h _ e (mapError_eq_ok.mp hread))

/-- A field access whose receiver drops its default and is turned around, while the whole gains a
line number. Then both become arrays, from the outside to the inside. -/
theorem respelled_descriptors_read_alike_fieldAccess :
    let v : Json := .obj [("kind", .str "field_access"),
      ("receiver", .obj [("kind", .str "name"), ("name", .str "a"), ("nullable", .bool false)]),
      ("name", .str "f")]
    let w : Json := .arr [.str "field_access", .arr [.str "name", .str "a", .bool false],
      .str "f", .bool false]
    let e : Expr := .fieldAccess (.name "a" false) "f" false
    Relation.ReflTransGen Place.expr.Respells v w ∧ readExpr v = .ok e ∧ readExpr w = .ok e := by
  intro v w e
  have hread : readExpr v = .ok e := rfl
  have hreceiver : (⟨"receiver", .expr, none⟩ : Slot) ∈ kindSlot :: [⟨"receiver", .expr, none⟩,
      ⟨"name", .text, none⟩, ⟨"nullable", .flag, some (.bool false)⟩] :=
    List.mem_of_getElem? (i := 1) rfl
  have hspellings : Relation.ReflTransGen Place.expr.Respells v w := by
    refine .head (.member [("kind", .str "field_access")] [("name", .str "f")] _ rfl hreceiver
      (.leaveOut [("kind", .str "name"), ("name", .str "a")] []
        ⟨"nullable", .flag, some (.bool false)⟩ rfl (List.mem_of_getElem? (i := 2) rfl) rfl
        (by decide))) ?_
    refine .head (.member [("kind", .str "field_access")] [("name", .str "f")] _ rfl hreceiver
      (.reorder (by decide) (.swap ("name", Json.str "a") ("kind", Json.str "name") []))) ?_
    refine .head (.insert [] _ "line" (.int 3) rfl (by decide)) ?_
    refine .head (.toArray [.str "field_access", .obj [("name", .str "a"), ("kind", .str "name")],
      .str "f", .bool false] rfl rfl) ?_
    exact .single (.element [.str "field_access"] [.str "f", .bool false] rfl rfl
      (.toArray [.str "name", .str "a", .bool false] rfl rfl))
  exact ⟨hspellings, hread, respelled_descriptors_read_alike.2 hspellings hread⟩

end Java

end Kotlinize
