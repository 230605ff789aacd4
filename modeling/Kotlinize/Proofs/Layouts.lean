import Kotlinize.Proofs.Levels

/-!
# The layout of descriptors

Which members a record of a descriptor has, in which order, what each of them
stands for and what an absent one counts as, written down as data: a `Slot` for
each member, and a list of slots for each record (`ClassTy.slots`, and by kind
`Ty.slots` and `Expr.slots`).

A record is written as an object or as an array, and `view` is the common
reading of both: the value under a key, which for an array is the one at the
position of that key among the slots. The decoders follow the layout
(`Follows`), so what they return depends on two things only, whether the value
fits the slots at all and what each slot holds in its view, its default where
there is nothing. `Place.keeps_of_kept` says so for every place at once: a value
may be exchanged for another one if what the slots hold is exchanged for what
reads the same.
-/

namespace Kotlinize.Java

/-! ## Places and slots

The layout is data, and so are the decoders that it is compared with: the tables
below have one line for each line of a decoder. What a decoder does that the tables
do not say would show in `Follows`, which could not be proved. -/

/-- **A place in a descriptor**: what the value there stands for. -/
inductive Place where
  | text
  | flag
  /-- The kind of a tagged record. -/
  | kind
  | literal
  | reference
  | typeParameter
  | declaration
  /-- A class type, where nothing but a class type can stand. -/
  | classType
  | bound
  | type
  | expr
  | nullable (place : Place)
  | list (place : Place)

/-- What is read at a place. A kind is kept as it is written. -/
def Place.Value : Place → Type
  | .text => String
  | .flag => Bool
  | .kind => Json
  | .literal => Literal
  | .reference => Reference
  | .typeParameter => TypeParameter
  | .declaration => Declaration
  | .classType => ClassTy
  | .bound => Bound
  | .type => Ty
  | .expr => Expr
  | .nullable p => Option p.Value
  | .list p => List p.Value

/-- A kind, which is a name or a number. -/
def kindDecoder : Decoder Json := fun _ v =>
  match v with
  | .str _ => .ok v
  | .int _ => .ok v
  | v => .error (.wrongType v.found .kind)

/-- How a place is read. -/
def Place.decoder : (p : Place) → Decoder p.Value
  | .text => Decoder.text
  | .flag => Decoder.flag
  | .kind => kindDecoder
  | .literal => Literal.decoder id
  | .reference => Reference.decoder
  | .typeParameter => Decoder.record (TypeParameter.record ClassTy.decoder)
  | .declaration => Decoder.record (Declaration.record ClassTy.decoder)
  | .classType => ClassTy.decoder
  | .bound => Bound.decoder Ty.decoder
  | .type => Ty.decoder
  | .expr => Expr.decoder
  | .nullable p => Decoder.nullable p.decoder
  | .list p => Decoder.list p.decoder

/-- **A value that may be exchanged** for another one at a place: wherever it is read, the other
one is read as the same. -/
def Place.Keeps (p : Place) (v w : Json) : Prop :=
  ∀ scope a, p.decoder scope v = .ok a → p.decoder scope w = .ok a

/-- **A member of a record**: its key, its place and what its absence counts as, if it may be
absent. -/
structure Slot where
  key : String
  place : Place
  default : Option Json

/-- The members of a reference. -/
def Reference.slots : List Slot := [
  ⟨"name", .text, none⟩,
  ⟨"qualifier", .nullable .reference, some .null⟩]

/-- The members of a type parameter. -/
def TypeParameter.slots : List Slot := [
  ⟨"name", .text, none⟩,
  ⟨"bounds", .list .classType, some (.arr [])⟩]

/-- The members of a declaration. -/
def Declaration.slots : List Slot := [
  ⟨"qualified_name", .nullable .text, some .null⟩,
  ⟨"type_parameters", .list .typeParameter, some (.arr [])⟩]

/-- The members of a class type. -/
def ClassTy.slots : List Slot := [
  ⟨"canonical_text", .text, none⟩,
  ⟨"class_name", .nullable .text, some .null⟩,
  ⟨"parameters", .list .type, some (.arr [])⟩,
  ⟨"reference", .nullable .reference, some .null⟩,
  ⟨"resolved", .nullable .declaration, some .null⟩]

/-- The members of a type beside its kind, by kind. -/
def Ty.slots : List (String × List Slot) := [
  ("primitive", [⟨"name", .text, none⟩]),
  ("array", [⟨"component", .type, none⟩]),
  ("class", ClassTy.slots),
  ("wildcard", [⟨"bound", .nullable .bound, some .null⟩]),
  ("ellipsis", [⟨"component", .type, none⟩])]

/-- The members of an expression beside its kind, by kind. -/
def Expr.slots : List (String × List Slot) := [
  ("literal", [⟨"value", .literal, none⟩]),
  ("name", [
    ⟨"name", .text, none⟩,
    ⟨"nullable", .flag, some (.bool false)⟩]),
  ("field_access", [
    ⟨"receiver", .expr, none⟩,
    ⟨"name", .text, none⟩,
    ⟨"nullable", .flag, some (.bool false)⟩]),
  ("method_call", [
    ⟨"callee", .expr, none⟩,
    ⟨"type_arguments", .list .type, some (.arr [])⟩,
    ⟨"arguments", .list .expr, some (.arr [])⟩,
    ⟨"result_nullable", .flag, some (.bool false)⟩]),
  ("new_array", [
    ⟨"type", .type, none⟩,
    ⟨"dimensions", .list .expr, none⟩]),
  ("new_anonymous", [
    ⟨"supertype", .classType, none⟩,
    ⟨"arguments", .list .expr, some (.arr [])⟩,
    ⟨"members", .list .text, some (.arr [])⟩])]

/-- The kind itself, which stands before the other members. -/
def kindSlot : Slot := ⟨Decoder.kindKey, .kind, none⟩

/-- The kind that a tagged record gives. -/
def kind? : Json → Option Json
  | .obj members => Json.get? Decoder.kindKey members
  | .arr (kind :: _) => some kind
  | _ => none

/-- The slots of a tagged record, if it is of a known kind. -/
def taggedSlots (table : List (String × List Slot)) (v : Json) : Option (List Slot) := do
  let kind ← kind? v
  let slots ← (Decoder.chooseKind .inner table kind).toOption
  some (kindSlot :: slots)

/-- **The slots of a value at a place**, where it stands for a record. -/
def Place.slots : Place → Json → Option (List Slot)
  | .reference, _ => some Reference.slots
  | .typeParameter, _ => some TypeParameter.slots
  | .declaration, _ => some Declaration.slots
  | .classType, _ => some ClassTy.slots
  | .type, v => taggedSlots Ty.slots v
  | .expr, v => taggedSlots Expr.slots v
  | _, _ => none

/-! ## The view of a record

An array is a record without keys. Its first element belongs to the first slot, its
second to the second, and elements at its end may be missing. Read through the slots
it is like an object in which the keys were written out. -/

/-- The element at the position of a key. -/
def byPosition : List Slot → List Json → String → Option Json
  | s :: slots, v :: elements, key => if key = s.key then some v else byPosition slots elements key
  | _, _, _ => none

/-- **The members of a record by key**, whether it is an object or an array. -/
def view (slots : List Slot) : Json → String → Option Json
  | .obj members => (Json.get? · members)
  | .arr elements => byPosition slots elements
  | _ => fun _ => none

/-- Whether a value can be a record with the given slots: an object, or an array that is not too
long. -/
def Fits (slots : List Slot) : Json → Prop
  | .obj _ => True
  | .arr elements => elements.length ≤ slots.length
  | _ => False

namespace Slot

variable {s : Slot} {get get' : String → Option Json}

/-- What a slot holds: the member, or else the default. -/
def held (s : Slot) (get : String → Option Json) : Option Json :=
  (get s.key).or s.default

/-- **A slot that is kept**: what it holds is exchanged for what reads the same. -/
def Kept (s : Slot) (get get' : String → Option Json) : Prop :=
  ∀ v, s.held get = some v → ∃ w, s.held get' = some w ∧ s.place.Keeps v w

/-- What stays the same is kept. -/
theorem Kept.of_held_eq (h : s.held get = s.held get') : s.Kept get get' :=
  fun v hv => ⟨v, h ▸ hv, fun _ _ hread => hread⟩

theorem Kept.of_get_eq (h : get s.key = get' s.key) : s.Kept get get' :=
  .of_held_eq (congrArg (Option.or · s.default) h)

end Slot

section Positions

variable {s : Slot} {slots slots' : List Slot} {elements : List Json} {key : String}

theorem byPosition_nil (slots : List Slot) (key : String) : byPosition slots [] key = none := by
  cases slots <;> rfl

theorem byPosition_cons_self {v : Json} :
    byPosition (s :: slots) (v :: elements) s.key = some v :=
  if_pos rfl

theorem byPosition_cons_of_ne {v : Json} (h : key ≠ s.key) :
    byPosition (s :: slots) (v :: elements) key = byPosition slots elements key :=
  if_neg h

/-- A key of the first slots is looked for among them only. -/
theorem byPosition_append_of_mem (h : key ∈ slots.map Slot.key) :
    byPosition (slots ++ slots') elements key = byPosition slots elements key := by
  induction slots generalizing elements with
  | nil => cases h
  | cons s slots ih =>
    cases elements with
    | nil => rfl
    | cons v elements =>
      by_cases hkey : key = s.key
      · show (if _ then _ else _) = (if _ then _ else _)
        rw [if_pos hkey, if_pos hkey]
      · rw [List.cons_append, byPosition_cons_of_ne hkey, byPosition_cons_of_ne hkey]
        exact ih ((List.mem_cons.mp h).resolve_left hkey)

/-- A key that the first slots do not have is looked for behind them, in the
elements that they leave. -/
theorem byPosition_append_of_notMem (h : key ∉ slots.map Slot.key) :
    byPosition (slots ++ slots') elements key
      = byPosition slots' (elements.drop slots.length) key := by
  induction slots generalizing elements with
  | nil => rfl
  | cons s slots ih =>
    rw [List.map_cons, List.mem_cons, not_or] at h
    cases elements with
    | nil => rw [List.drop_nil, byPosition_nil, byPosition_nil]
    | cons v elements =>
      rw [List.cons_append, byPosition_cons_of_ne h.1, ih h.2]
      rfl

end Positions

/-! ## Decoders that follow a layout

Descriptions of fields are composed, and their layouts are concatenated. What has to
be carried along is that the two readings of a description agree: the elements of an
array are consumed one by one, while the view finds them by position. For that the
keys must be distinct, since otherwise a later slot would be hidden by an earlier
one. -/

variable {α β : Type}

/-- **Fields that follow a layout.** What is read depends on what the slots hold, and reading the
elements of an array is reading them by position. -/
structure Follows (fs : Fields α) (slots : List Slot) : Prop where
  reads : ∀ {scope get get' a}, (∀ s ∈ slots, s.Kept get get') →
    fs.Reads scope get a → fs.Reads scope get' a
  ofElements : ∀ {tooShort scope index elements a rest}, (slots.map Slot.key).Nodup →
    (fs.ofElements tooShort scope index elements = .ok (a, rest)
      ↔ rest = elements.drop slots.length ∧ fs.Reads scope (byPosition slots elements) a)

namespace Follows

/-- Only the keys of the slots are looked up. -/
theorem reads_congr {fs : Fields α} {slots : List Slot} (h : Follows fs slots) {scope : Scope}
    {get get' : String → Option Json} {a : α} (hget : ∀ s ∈ slots, get s.key = get' s.key) :
    fs.Reads scope get a ↔ fs.Reads scope get' a :=
  ⟨h.reads fun s hs => .of_get_eq (hget s hs), h.reads fun s hs => .of_get_eq (hget s hs).symm⟩

theorem done (a : α) : Follows (.done a) [] where
  reads _ hread := hread
  ofElements {_ _ _ elements b rest} _ := by
    show Except.ok (a, elements) = .ok (b, rest) ↔ rest = elements ∧ Except.ok a = .ok b
    simp only [Except.ok.injEq, Prod.mk.injEq, eq_comm, and_comm]

/-- What a field without a member reads is what it reads from the default of its slot. -/
def AbsentAsDefault (s : Slot) (absent : Option s.place.Value) : Prop :=
  ∀ scope a, absent = some a ↔ ∃ v, s.default = some v ∧ s.place.decoder scope v = .ok a

/-- A field reads what its slot holds. -/
theorem reads_field {s : Slot} {absent : Option s.place.Value} (h : AbsentAsDefault s absent)
    {scope : Scope} {get : String → Option Json} {a : s.place.Value} :
    (Fields.field s.key s.place.decoder absent absent).Reads scope get a
      ↔ ∃ v, s.held get = some v ∧ s.place.decoder scope v = .ok a := by
  unfold Fields.Reads Slot.held
  rw [Fields.ofMembers_field_eq_ok, h scope]
  cases get s.key with
  | none => simp
  | some v => simp

/-- **A single field follows its slot**, if its absence counts as the default of the slot. -/
theorem field {s : Slot} {absent : Option s.place.Value} (h : AbsentAsDefault s absent) :
    Follows (.field s.key s.place.decoder absent absent) [s] where
  reads {scope get get' a} hkept hread := by
    obtain ⟨v, hv, hread⟩ := (reads_field h).mp hread
    obtain ⟨w, hw, hkeeps⟩ := hkept s List.mem_cons_self v hv
    exact (reads_field h).mpr ⟨w, hw, hkeeps scope a hread⟩
  ofElements {tooShort scope index elements a rest} _ := by
    rw [Fields.ofElements_field_eq_ok, reads_field h, Slot.held, h scope]
    cases elements with
    | nil => simp [byPosition]
    | cons v elements => simp [byPosition, eq_comm]

/-- A field without default. -/
theorem required (key : String) (p : Place) :
    Follows (.required key p.decoder) [⟨key, p, none⟩] :=
  field (s := ⟨key, p, none⟩) fun _ _ => by simp

/-- A field whose default is read from the default of its slot. -/
theorem defaulted (key : String) (p : Place) {v : Json} {a : p.Value}
    (hread : ∀ scope, p.decoder scope v = .ok a) :
    Follows (.defaulted key p.decoder a) [⟨key, p, some v⟩] :=
  field (s := ⟨key, p, some v⟩) fun scope b => by simp [hread scope]

/-- **Two descriptions follow their layouts one after another.** The elements that
the first leaves are those behind its slots, and there the second finds its own. -/
theorem both {fs : Fields (α → β)} {gs : Fields α} {slots slots' : List Slot}
    (hfs : Follows fs slots) (hgs : Follows gs slots') :
    Follows (fs.both gs) (slots ++ slots') where
  reads hkept hread := by
    obtain ⟨f, a, hf, ha, rfl⟩ := Fields.ofMembers_both_eq_ok.mp hread
    exact Fields.Reads.seq (hfs.reads (fun s hs => hkept s (List.mem_append_left _ hs)) hf)
      (hgs.reads (fun s hs => hkept s (List.mem_append_right _ hs)) ha)
  ofElements {tooShort scope index elements b rest} hnodup := by
    rw [List.map_append, List.nodup_append] at hnodup
    obtain ⟨hfirst, hsecond, hdisjoint⟩ := hnodup
    -- the keys differ, so each of the two descriptions sees its own slots only
    have hf : ∀ {f}, fs.Reads scope (byPosition (slots ++ slots') elements) f
        ↔ fs.Reads scope (byPosition slots elements) f :=
      hfs.reads_congr fun s hs => byPosition_append_of_mem (List.mem_map_of_mem hs)
    have hg : ∀ {a}, gs.Reads scope (byPosition (slots ++ slots') elements) a
        ↔ gs.Reads scope (byPosition slots' (elements.drop slots.length)) a :=
      hgs.reads_congr fun s hs =>
        byPosition_append_of_notMem fun hmem => hdisjoint _ hmem _ (List.mem_map_of_mem hs) rfl
    rw [Fields.ofElements_both_eq_ok, Fields.Reads, Fields.ofMembers_both_eq_ok,
      List.length_append, ← List.drop_drop]
    constructor
    · rintro ⟨f, a, middle, hfread, haread, rfl⟩
      obtain ⟨rfl, hfheld⟩ := (hfs.ofElements hfirst).mp hfread
      obtain ⟨rfl, haheld⟩ := (hgs.ofElements hsecond).mp haread
      exact ⟨rfl, f, a, hf.mpr hfheld, hg.mpr haheld, rfl⟩
    · rintro ⟨rfl, f, a, hfread, haread, rfl⟩
      exact ⟨f, a, elements.drop slots.length, (hfs.ofElements hfirst).mpr ⟨rfl, hf.mp hfread⟩,
        (hgs.ofElements hsecond).mpr ⟨rfl, hg.mp haread⟩, rfl⟩

theorem map (f : α → β) {fs : Fields α} {slots : List Slot} (h : Follows fs slots) :
    Follows (f <$> fs) slots :=
  (done f).both h

theorem seq {fs : Fields (α → β)} {gs : Fields α} {slots slots' : List Slot}
    (hfs : Follows fs slots) (hgs : Follows gs slots') :
    Follows (fs <*> gs) (slots ++ slots') :=
  hfs.both hgs

/-- **Reading an array** is reading it by position, provided that no element is left over. -/
theorem ofArray {fs : Fields α} {slots : List Slot} (h : Follows fs slots)
    (hnodup : (slots.map Slot.key).Nodup) {title : String} {scope : Scope} {elements : List Json}
    {a : α} :
    fs.ofArray title scope elements = .ok a
      ↔ elements.length ≤ slots.length ∧ fs.Reads scope (byPosition slots elements) a := by
  have hall : ∀ {rest : List Json} {b : α} {e : Mismatch},
      (if rest.isEmpty then Except.ok b else .error e) = .ok a ↔ rest = [] ∧ b = a := by
    intro rest b e
    cases rest <;> simp
  unfold Fields.ofArray
  dsimp only
  simp only [bind_eq_ok, Prod.exists, hall, h.ofElements hnodup]
  constructor
  · rintro ⟨b, rest, ⟨rfl, hread⟩, hrest, rfl⟩
    exact ⟨List.drop_eq_nil_iff.mp hrest, hread⟩
  · rintro ⟨hlength, hread⟩
    exact ⟨a, _, ⟨rfl, hread⟩, List.drop_eq_nil_iff.mpr hlength, rfl⟩

/-- **Reading a record**: it fits its slots, and its fields are read from its view. -/
theorem record {r : Record α} {slots : List Slot} (h : Follows r.fields slots)
    (hnodup : (slots.map Slot.key).Nodup) {scope : Scope} {v : Json} {a : α} :
    Decoder.record r scope v = .ok a ↔ Fits slots v ∧ r.fields.Reads scope (view slots v) a := by
  cases v with
  | obj members => exact Fields.ofObject_eq_ok.trans (true_and _).symm.to_iff
  | arr elements => exact h.ofArray hnodup
  | _ => simp [Decoder.record, Fits]

end Follows

/-- The kind is what the first slot of a tagged record holds. -/
theorem held_kindSlot (slots : List Slot) (v : Json) :
    kindSlot.held (view (kindSlot :: slots) v) = kind? v := by
  have hview : view (kindSlot :: slots) v kindSlot.key = kind? v := by
    cases v with
    | obj members => rfl
    | arr elements =>
      cases elements with
      | nil => rfl
      | cons kind elements => exact byPosition_cons_self (s := kindSlot)
    | _ => rfl
  rw [Slot.held, hview]
  exact Option.or_none

/-- A kind that follows a layout. -/
def KindFollows (r : Record α) (slots : List Slot) : Prop :=
  ((kindSlot :: slots).map Slot.key).Nodup ∧ Follows r.fields slots

section Tagged

variable {cases : List (String × Record α)} {table : List (String × List Slot)} {name : String}
  {scope : Scope} {v w kind : Json} {r : Record α} {slots : List Slot} {a : α}

/-- A tagged record that is read gives a kind, and the kind chooses a case. -/
theorem chooses_of_tagged (h : Decoder.tagged name cases scope v = .ok a) :
    ∃ kind r, kind? v = some kind ∧ Decoder.chooseKind scope cases kind = .ok r := by
  unfold Decoder.tagged at h
  split at h
  next members =>
    split at h
    next => cases h
    next kind hkind =>
      obtain ⟨r, hr, _⟩ := bind_eq_ok.mp h
      exact ⟨kind, r, hkind, hr⟩
  next => cases h
  next kind elements =>
    obtain ⟨r, hr, _⟩ := bind_eq_ok.mp h
    exact ⟨kind, r, rfl, hr⟩
  next => cases h

/-- **Reading a tagged record** of a given kind: it fits the slots of that kind, and the fields of
the kind are read from its view. -/
theorem KindFollows.tagged (h : KindFollows r slots) (hkind : kind? v = some kind)
    (hchoose : Decoder.chooseKind scope cases kind = .ok r) :
    Decoder.tagged name cases scope v = .ok a
      ↔ Fits (kindSlot :: slots) v ∧ r.fields.Reads .inner (view (kindSlot :: slots) v) a := by
  obtain ⟨hnodup, hfollows⟩ := h
  rw [List.map_cons, List.nodup_cons] at hnodup
  cases v with
  | obj members =>
    have hget : Json.get? Decoder.kindKey members = some kind := hkind
    simp only [Decoder.tagged, hget, hchoose]
    exact Fields.ofObject_eq_ok.trans (true_and _).symm.to_iff
  | arr elements =>
    cases elements with
    | nil => cases hkind
    | cons first elements =>
      cases hkind
      -- the kind stands apart from the fields, since none of them has its key
      have hview : r.fields.Reads .inner (view (kindSlot :: slots) (.arr (kind :: elements))) a
          ↔ r.fields.Reads .inner (byPosition slots elements) a :=
        hfollows.reads_congr fun s hs => byPosition_cons_of_ne fun hkey =>
          hnodup.1 (hkey ▸ List.mem_map_of_mem hs)
      rw [hview]
      simp only [Decoder.tagged, hchoose]
      exact (hfollows.ofArray hnodup.2).trans (and_congr_left' Nat.succ_le_succ_iff.symm)
  | _ => cases hkind

/-- A choice that is made anywhere is made inside a tagged record as well. -/
theorem chooseKind_inner {cases : List (String × β)} {b : β}
    (h : Decoder.chooseKind scope cases kind = .ok b) :
    Decoder.chooseKind .inner cases kind = .ok b := by
  cases scope with
  | inner => exact h
  | outer =>
    unfold Decoder.chooseKind at h
    split at h
    next name _ => exact h
    next => contradiction
    next => cases h

/-- A kind that chooses is read as it is written. -/
theorem kindDecoder_of_chooseKind {cases : List (String × β)} {b : β}
    (h : Decoder.chooseKind scope cases kind = .ok b) : kindDecoder scope kind = .ok kind := by
  unfold Decoder.chooseKind at h
  split at h
  next => rfl
  next => rfl
  next => cases h

/-- A kind is kept as it is written, so only itself reads the same. -/
theorem eq_of_kindDecoder (h : kindDecoder scope v = .ok w) : v = w := by
  unfold kindDecoder at h
  split at h
  next => cases h; rfl
  next => cases h; rfl
  next => cases h

/-- The slots of a tagged record are those of the kind that it chooses, after the kind. -/
theorem exists_of_taggedSlots (h : CasesAgree KindFollows cases table)
    (hslots : taggedSlots table v = some slots) :
    ∃ kind r fields, kind? v = some kind ∧ Decoder.chooseKind .inner cases kind = .ok r
      ∧ slots = kindSlot :: fields ∧ KindFollows r fields := by
  obtain ⟨kind, hkind, hslots⟩ := Option.bind_eq_some_iff.mp hslots
  obtain ⟨fields, hfields, hslots⟩ := Option.bind_eq_some_iff.mp hslots
  have hchoice := h.chooseKind .inner kind
  generalize hx : Decoder.chooseKind .inner cases kind = x,
    Decoder.chooseKind .inner table kind = y at hchoice hfields
  cases hchoice with
  | error => cases hfields
  | ok hfollows =>
    cases hfields
    cases hslots
    exact ⟨kind, _, fields, hkind, hx, rfl, hfollows⟩

/-- A tagged record may be exchanged for one that keeps its slots. -/
theorem tagged_keeps (h : CasesAgree KindFollows cases table)
    (hslots : taggedSlots table v = some slots) (hfits : Fits slots v → Fits slots w)
    (hkept : ∀ s ∈ slots, s.Kept (view slots v) (view slots w))
    (hread : Decoder.tagged name cases scope v = .ok a) :
    Decoder.tagged name cases scope w = .ok a := by
  obtain ⟨kind, r, hkind, hchoose⟩ := chooses_of_tagged hread
  obtain ⟨kind', r', fields, hkind', hchoose', rfl, hfollows⟩ := exists_of_taggedSlots h hslots
  cases hkind.symm.trans hkind'
  cases (chooseKind_inner hchoose).symm.trans hchoose'
  have hkindw : kind? w = some kind := by
    obtain ⟨kind', hheld, hkeeps⟩ :=
      hkept kindSlot List.mem_cons_self kind ((held_kindSlot fields v).trans hkind)
    have hsame := eq_of_kindDecoder (hkeeps scope kind (kindDecoder_of_chooseKind hchoose))
    rw [← held_kindSlot fields, hheld, hsame]
  obtain ⟨hfit, hread⟩ := (hfollows.tagged hkind hchoose).mp hread
  exact (hfollows.tagged hkindw hchoose).mpr
    ⟨hfits hfit, hfollows.2.reads (fun s hs => hkept s (List.mem_cons_of_mem _ hs)) hread⟩

end Tagged

/-! ## The decoders of descriptors

Each record of the descriptors is a sequence of fields, and its layout is put
together along the same sequence. -/

theorem Reference.follows : Follows (Reference.record Reference.decoder).fields Reference.slots :=
  ((Follows.required "name" .text).map _).seq
    (.defaulted "qualifier" (.nullable .reference) fun _ => rfl)

theorem TypeParameter.follows :
    Follows (TypeParameter.record ClassTy.decoder).fields TypeParameter.slots :=
  ((Follows.required "name" .text).map _).seq
    (.defaulted "bounds" (.list .classType) fun _ => rfl)

theorem Declaration.follows :
    Follows (Declaration.record ClassTy.decoder).fields Declaration.slots :=
  ((Follows.defaulted "qualified_name" (.nullable .text) fun _ => rfl).map _).seq
    (.defaulted "type_parameters" (.list .typeParameter) fun _ => rfl)

theorem ClassTy.follows :
    Follows (ClassTy.record Ty.decoder Reference.decoder ClassTy.decoder).fields ClassTy.slots :=
  (((((Follows.required "canonical_text" .text).map _).seq
    (.defaulted "class_name" (.nullable .text) fun _ => rfl)).seq
    (.defaulted "parameters" (.list .type) fun _ => rfl)).seq
    (.defaulted "reference" (.nullable .reference) fun _ => rfl)).seq
    (.defaulted "resolved" (.nullable .declaration) fun _ => rfl)

/-- The kinds of types, in the order of their numbers. -/
theorem Ty.follows :
    CasesAgree KindFollows (Ty.cases Ty.decoder Reference.decoder ClassTy.decoder) Ty.slots :=
  .cons ⟨rfl, by decide, (Follows.required "name" .text).map _⟩
    (.cons ⟨rfl, by decide, (Follows.required "component" .type).map _⟩
    (.cons ⟨rfl, by decide, ClassTy.follows.map _⟩
    (.cons ⟨rfl, by decide, (Follows.defaulted "bound" (.nullable .bound) fun _ => rfl).map _⟩
    (.cons ⟨rfl, by decide, (Follows.required "component" .type).map _⟩ .nil))))

/-- The kinds of expressions. -/
theorem Expr.follows :
    CasesAgree KindFollows (Expr.cases Expr.decoder Ty.decoder ClassTy.decoder) Expr.slots :=
  .cons ⟨rfl, by decide, (Follows.required "value" .literal).map _⟩
    (.cons ⟨rfl, by decide, ((Follows.required "name" .text).map _).seq
      (.defaulted "nullable" .flag fun _ => rfl)⟩
    (.cons ⟨rfl, by decide, (((Follows.required "receiver" .expr).map _).seq
      (.required "name" .text)).seq (.defaulted "nullable" .flag fun _ => rfl)⟩
    (.cons ⟨rfl, by decide, ((((Follows.required "callee" .expr).map _).seq
      (.defaulted "type_arguments" (.list .type) fun _ => rfl)).seq
      (.defaulted "arguments" (.list .expr) fun _ => rfl)).seq
      (.defaulted "result_nullable" .flag fun _ => rfl)⟩
    (.cons ⟨rfl, by decide, ((Follows.required "type" .type).map _).seq
      (.required "dimensions" (.list .expr))⟩
    (.cons ⟨rfl, by decide, (((Follows.required "supertype" .classType).map _).seq
      (.defaulted "arguments" (.list .expr) fun _ => rfl)).seq
      (.defaulted "members" (.list .text) fun _ => rfl)⟩ .nil)))))

/-- A record may be exchanged for one that keeps its slots. -/
theorem Follows.record_keeps {r : Record α} {slots : List Slot} (h : Follows r.fields slots)
    (hnodup : (slots.map Slot.key).Nodup) {v w : Json} (hfits : Fits slots v → Fits slots w)
    (hkept : ∀ s ∈ slots, s.Kept (view slots v) (view slots w)) {scope : Scope} {a : α}
    (hread : Decoder.record r scope v = .ok a) : Decoder.record r scope w = .ok a := by
  obtain ⟨hfit, hread⟩ := (h.record hnodup).mp hread
  exact (h.record hnodup).mpr ⟨hfits hfit, h.reads hkept hread⟩

namespace Place

variable {p : Place} {v w : Json} {slots : List Slot}

/-- The keys of the slots of a record are distinct. -/
theorem nodup_slots (h : p.slots v = some slots) : (slots.map Slot.key).Nodup := by
  cases p with
  | reference => cases h; decide
  | typeParameter => cases h; decide
  | declaration => cases h; decide
  | classType => cases h; decide
  | type =>
    obtain ⟨_, _, _, _, _, rfl, hfollows⟩ := exists_of_taggedSlots Ty.follows h
    exact hfollows.1
  | expr =>
    obtain ⟨_, _, _, _, _, rfl, hfollows⟩ := exists_of_taggedSlots Expr.follows h
    exact hfollows.1
  | _ => cases h

/-- **A record may be exchanged for one that keeps its slots**, at whatever place it stands. -/
theorem keeps_of_kept (hslots : p.slots v = some slots) (hfits : Fits slots v → Fits slots w)
    (hkept : ∀ s ∈ slots, s.Kept (view slots v) (view slots w)) : p.Keeps v w := by
  intro scope a hread
  have hnodup := nodup_slots hslots
  -- a type and an expression are looked at for their kind first; the others have one layout each
  cases p with
  | reference =>
    cases hslots
    rw [decoder, Reference.decoder_eq] at hread ⊢
    exact Reference.follows.record_keeps hnodup hfits hkept hread
  | typeParameter =>
    cases hslots
    exact TypeParameter.follows.record_keeps hnodup hfits hkept hread
  | declaration =>
    cases hslots
    exact Declaration.follows.record_keeps hnodup hfits hkept hread
  | classType =>
    cases hslots
    rw [decoder, ClassTy.decoder_eq] at hread ⊢
    exact ClassTy.follows.record_keeps hnodup hfits hkept hread
  | type =>
    rw [decoder, Ty.decoder_eq] at hread ⊢
    exact tagged_keeps Ty.follows hslots hfits hkept hread
  | expr =>
    rw [decoder, Expr.decoder_eq] at hread ⊢
    exact tagged_keeps Expr.follows hslots hfits hkept hread
  | _ => cases hslots

end Place

end Kotlinize.Java
