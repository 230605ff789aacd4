import Kotlinize.Literal.Json
import Kotlinize.Proofs.Sequences

/-!
# When decoders succeed

A decoder is put together from smaller ones, and this module says of each way to
do so what it takes to return a value. The fields of a record are read as a
whole exactly if each of them is read; of an object that means by key
(`Fields.ofMembers_both_eq_ok`), of an array it means one after another, each
description leaving to the next what it did not use
(`Fields.ofElements_both_eq_ok`).

Later modules open a decoder by these statements only. The mismatches of a
decoder that fails are not looked at here.
-/

namespace Kotlinize

variable {α β ε ε' : Type}

/-! ## Results

A decoder ends in a value or in a mismatch, and most of them are chains of smaller
decoders. What such a chain ends in is read off its links: it ends in a value
exactly if every link does. -/

/-- **A chain ends in a value** if its first link does, and the rest does on that value. -/
theorem bind_eq_ok {x : Except ε α} {f : α → Except ε β} {b : β} :
    x >>= f = .ok b ↔ ∃ a, x = .ok a ∧ f a = .ok b := by
  cases x with
  | error e => simp [bind, Except.bind]
  | ok a => simp [bind, Except.bind]

/-- A value of a mapped result is the image of a value. -/
theorem map_eq_ok {x : Except ε α} {f : α → β} {b : β} :
    x.map f = .ok b ↔ ∃ a, x = .ok a ∧ f a = b := by
  cases x with
  | error e => simp [Except.map]
  | ok a => simp [Except.map]

/-- Rewording a mismatch makes no value out of it. -/
theorem mapError_eq_ok {x : Except ε α} {f : ε → ε'} {a : α} :
    x.mapError f = .ok a ↔ x = .ok a := by
  cases x with
  | error e => exact ⟨nofun, nofun⟩
  | ok b =>
    show Except.ok b = Except.ok a ↔ _
    rw [Except.ok.injEq, Except.ok.injEq]

/-! ## Members -/

/-- A member before the others is found only where they have no such key. -/
theorem Json.get?_cons_of_some {key : String} {v : Json} (m : String × Json)
    {members : List (String × Json)} (h : Json.get? key members = some v) :
    Json.get? key (m :: members) = some v := by
  rw [Json.get?, h]

/-! ## Fields

A description of fields can be read from the members of an object and from the
elements of an array. Both readings are given by what a single field does and by
what two descriptions do one after the other, since nothing else describes
fields. -/

namespace Fields

variable {key : String} {d : Decoder α} {absent short : Option α} {scope : Scope}
  {get : String → Option Json} {tooShort : Nat → Mismatch} {index : Nat}

/-- **A field of an object**: what is found under its key is decoded, and where
nothing is found the field needs a value for being absent. -/
theorem ofMembers_field_eq_ok {a : α} :
    (field key d absent short).ofMembers scope get = .ok a
      ↔ (∃ v, get key = some v ∧ d scope v = .ok a) ∨ (get key = none ∧ absent = some a) := by
  cases hget : get key with
  | some v => simp [field, hget, mapError_eq_ok]
  | none => cases absent <;> simp [field, hget]

/-- **A field of an array** takes the first element that is left. Where none is left
it needs a value for an array that is too short. -/
theorem ofElements_field_eq_ok {elements rest : List Json} {a : α} :
    (field key d absent short).ofElements tooShort scope index elements = .ok (a, rest)
      ↔ (∃ v, elements = v :: rest ∧ d scope v = .ok a)
        ∨ (elements = [] ∧ rest = [] ∧ short = some a) := by
  cases elements with
  | nil => cases short <;> simp [field, eq_comm, and_comm]
  | cons v vs =>
    show (d scope v).map (fun a => (a, vs)) = _ ↔ _
    rw [map_eq_ok]
    constructor
    · rintro ⟨b, hb, hpair⟩
      cases hpair
      exact .inl ⟨v, rfl, hb⟩
    · rintro (⟨w, hcons, hw⟩ | ⟨hnil, _⟩)
      · cases hcons
        exact ⟨a, hw, rfl⟩
      · cases hnil

/-- **Two descriptions read the same members**, neither knowing of the other. -/
theorem ofMembers_both_eq_ok {fs : Fields (α → β)} {gs : Fields α} {b : β} :
    (fs.both gs).ofMembers scope get = .ok b
      ↔ ∃ f a, fs.ofMembers scope get = .ok f ∧ gs.ofMembers scope get = .ok a ∧ f a = b := by
  unfold both
  dsimp only
  cases fs.ofMembers scope get <;> cases gs.ofMembers scope get <;> simp

/-- **Two descriptions share the elements of an array**: the second goes on where
the first stopped, with its index moved by the number of fields of the first. -/
theorem ofElements_both_eq_ok {fs : Fields (α → β)} {gs : Fields α} {elements rest : List Json}
    {b : β} :
    (fs.both gs).ofElements tooShort scope index elements = .ok (b, rest)
      ↔ ∃ f a middle, fs.ofElements tooShort scope index elements = .ok (f, middle)
        ∧ gs.ofElements tooShort scope (index + fs.arity) middle = .ok (a, rest) ∧ f a = b := by
  show (fs.ofElements tooShort scope index elements >>= fun p =>
    gs.ofElements tooShort scope (index + fs.arity) p.2 >>= fun q => .ok (p.1 q.1, q.2)) = _ ↔ _
  simp only [bind_eq_ok, Prod.exists, Except.ok.injEq, Prod.mk.injEq]
  constructor
  · rintro ⟨f, middle, hf, a, _, ha, rfl, rfl⟩
    exact ⟨f, a, middle, hf, ha, rfl⟩
  · rintro ⟨f, a, middle, hf, ha, rfl⟩
    exact ⟨f, middle, hf, a, rest, ha, rfl, rfl⟩

end Fields

/-- **Fields that are read** as a value from what is found under their keys. -/
def Fields.Reads (fs : Fields α) (scope : Scope) (get : String → Option Json) (a : α) : Prop :=
  fs.ofMembers scope get = .ok a

namespace Fields.Reads

variable {key : String} {d : Decoder α} {scope : Scope} {get : String → Option Json} {v : Json}

/-- A field is read where its key is found. -/
theorem field {a : α} {absent short : Option α} (hget : get key = some v)
    (hread : d scope v = .ok a) : (Fields.field key d absent short).Reads scope get a :=
  ofMembers_field_eq_ok.mpr (.inl ⟨v, hget, hread⟩)

theorem required {a : α} (hget : get key = some v) (hread : d scope v = .ok a) :
    (Fields.required key d).Reads scope get a :=
  field hget hread

theorem defaulted {a default : α} (hget : get key = some v) (hread : d scope v = .ok a) :
    (Fields.defaulted key d default).Reads scope get a :=
  field hget hread

theorem optional {a : Option α} (hget : get key = some v)
    (hread : Decoder.nullable d scope v = .ok a) : (Fields.optional key d).Reads scope get a :=
  field hget hread

/-- Two descriptions are read if each of them is. -/
theorem seq {fs : Fields (α → β)} {gs : Fields α} {f : α → β} {a : α} (hf : fs.Reads scope get f)
    (ha : gs.Reads scope get a) : (fs <*> gs).Reads scope get (f a) :=
  ofMembers_both_eq_ok.mpr ⟨f, a, hf, ha, rfl⟩

theorem map (f : α → β) {fs : Fields α} {a : α} (h : fs.Reads scope get a) :
    (f <$> fs).Reads scope get (f a) :=
  ofMembers_both_eq_ok.mpr ⟨f, a, rfl, h, rfl⟩

end Fields.Reads

/-- The members of an object are looked up by key; of several with one key the last counts. -/
theorem Fields.ofObject_eq_ok {fs : Fields α} {scope : Scope} {members : List (String × Json)}
    {a : α} : fs.ofObject scope members = .ok a ↔ fs.Reads scope (Json.get? · members) a :=
  mapError_eq_ok

/-! ## Decoders

The statements from here on go in one direction only: what is found suffices to read
the value. They are what reading back a value needs, where the form is known and the
decoder has to follow it. -/

namespace Decoder

variable {d : Decoder α} {scope : Scope} {v : Json} {a : α} {name : String}
  {members : List (String × Json)}

/-- What is not `null` is left to the decoder of the values. -/
theorem nullable_eq_map (hv : v ≠ .null) : nullable d scope v = (d scope v).map some := by
  unfold nullable
  split
  · exact absurd rfl hv
  · rfl

theorem nullable_of_ne_null (hv : v ≠ .null) (hread : d scope v = .ok a) :
    nullable d scope v = .ok (some a) := by
  rw [nullable_eq_map hv, hread]
  rfl

/-- An optional value is read back if every value is. -/
theorem nullable_ofOption {form : α → Json} (hne : ∀ a, form a ≠ .null)
    (hread : ∀ a, d scope (form a) = .ok a) :
    ∀ o : Option α, nullable d scope (.ofOption form o) = .ok o
  | none => rfl
  | some a => nullable_of_ne_null (hne a) (hread a)

theorem mapM_cons_eq_ok {f : Json → Except Mismatch α} {vs : List Json} {as : List α}
    (hhead : f v = .ok a) (htail : vs.mapM f = .ok as) : (v :: vs).mapM f = .ok (a :: as) := by
  rw [List.mapM_cons, hhead, htail]
  rfl

/-- A list is read back if its elements are. -/
theorem mapM_map_eq_ok {f : Json → Except Mismatch α} {form : α → Json} :
    ∀ {as : List α}, (∀ a ∈ as, f (form a) = .ok a) → (as.map form).mapM f = .ok as
  | [], _ => rfl
  | a :: _, hread => mapM_cons_eq_ok (hread a List.mem_cons_self)
      (mapM_map_eq_ok fun b hb => hread b (List.mem_cons_of_mem a hb))

theorem map_of_ok (f : α → β) (hread : d scope v = .ok a) : d.map f scope v = .ok (f a) := by
  unfold Decoder.map
  rw [hread]
  rfl

/-- A record is read from an object that holds its fields. -/
theorem record_obj {r : Record α} (h : r.fields.Reads scope (Json.get? · members) a) :
    record r scope (.obj members) = .ok a :=
  Fields.ofObject_eq_ok.mpr h

/-- **A tagged record is read from an object** that names a kind and holds the
fields of that kind. They are read inside the record, so their own kinds may be
numbers. -/
theorem tagged_obj {title : String} {cases : List (String × Record α)} {r : Record α}
    (hkind : Json.get? kindKey members = some (.str name)) (hcase : cases.lookup name = some r)
    (h : r.fields.Reads .inner (Json.get? · members) a) :
    tagged title cases scope (.obj members) = .ok a := by
  have hchoose : chooseKind scope cases (.str name) = .ok r := by
    show choose name cases = .ok r
    unfold choose
    rw [hcase]
  simp only [tagged, hkind]
  exact bind_eq_ok.mpr ⟨r, hchoose, Fields.ofObject_eq_ok.mpr h⟩

/-- A variant without payload is read from its name. -/
theorem variant_str {cases : List (String × Payload α)}
    (hcase : cases.lookup name = some (.unit a)) :
    variant cases scope (.str name) = .ok a := by
  simp only [variant, choose, hcase]
  rfl

/-- A variant with a payload is read from the object that has its name as the only key. -/
theorem variant_obj {cases : List (String × Payload α)} {p : Payload α}
    (hcase : cases.lookup name = some p) (h : payload p scope v = .ok a) :
    variant cases scope (.obj [(name, v)]) = .ok a := by
  have hsole : Json.sole? [(name, v)] = some (name, v) := rfl
  simp only [variant, hsole, choose, hcase]
  exact h

theorem payload_fields {fs : Fields α} (h : fs.Reads scope (Json.get? · members) a) :
    payload (.fields fs) scope (.obj members) = .ok a :=
  Fields.ofObject_eq_ok.mpr h

end Decoder

/-! ## Literals

The numbers and characters of a literal come back from their JSON forms because each
form is within the bounds that its decoder checks. For floating point numbers that
takes finiteness, since JSON has no form for the others. -/

namespace Literal

/-- Every integer of 64 bits is within the bounds of the decoder. -/
theorem int64_toInt (scope : Scope) (n : Int64) : Decoder.int64 scope (.int n.toInt) = .ok n := by
  show (if _ then _ else _) = _
  rw [if_pos ⟨n.minValue_le_toInt, n.toInt_le⟩, Int64.ofInt_toInt]

theorem float64_ofFloat (scope : Scope) {x : Float} (hx : x.isFinite = true) :
    Decoder.float64 scope (.ofFloat x) = .ok x := by
  unfold Json.ofFloat
  rw [if_pos hx]
  rfl

theorem character_ofList (scope : Scope) (c : Char) :
    Decoder.character scope (.str (String.ofList [c])) = .ok c := by
  unfold Decoder.character
  dsimp only
  rw [String.toList_ofList]

/-- **A literal is read back**, however its variants are spelled, if it is finite. -/
theorem decoder_toJson {spell : String → String}
    (hspell : ((Literal.cases spell).map Prod.fst).Nodup) (scope : Scope) {l : Literal}
    (hfinite : l.isFinite = true) :
    Literal.decoder spell scope (l.toJson spell) = .ok l := by
  -- all literals but null are read in the same way, by the decoder of the value they hold
  have hvalue : ∀ {α : Type} {d : Decoder α} {f : α → Literal} {name : String} {v : Json} {a : α},
      (name, .value (d.map f)) ∈ Literal.cases spell → d scope v = .ok a →
      Decoder.variant (Literal.cases spell) scope (.obj [(name, v)]) = .ok (f a) :=
    fun hmem hread =>
      Decoder.variant_obj (List.lookup_of_mem hspell hmem) (Decoder.map_of_ok _ hread)
  unfold Literal.decoder
  cases l with
  | null => exact Decoder.variant_str (List.lookup_of_mem hspell (by simp [Literal.cases]))
  | bool b => exact hvalue (d := .flag) (f := .bool) (by simp [Literal.cases]) rfl
  | int n => exact hvalue (f := .int) (by simp [Literal.cases]) (int64_toInt scope n)
  | long n => exact hvalue (f := .long) (by simp [Literal.cases]) (int64_toInt scope n)
  | float x => exact hvalue (f := .float) (by simp [Literal.cases]) (float64_ofFloat scope hfinite)
  | double x =>
    exact hvalue (f := .double) (by simp [Literal.cases]) (float64_ofFloat scope hfinite)
  | char c => exact hvalue (f := .char) (by simp [Literal.cases]) (character_ofList scope c)
  | string s => exact hvalue (d := .text) (f := .string) (by simp [Literal.cases]) rfl

end Literal

end Kotlinize
