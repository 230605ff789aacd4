import Kotlinize.Proofs.Spellings

/-!
# The grammar of type descriptors

Which JSON values are spellings of a given type, said by recursion on the type
and without a decoder. A tagged record names the kind of the type, a record has
no more elements than it has slots where it is an array, and each field is
spelled by what the record holds under its key. A field may be absent only where
it has a default, and then the type holds that default; `null` stands for an
optional value that is not there and for nothing else. What a record holds under
a key is its `view`, so all this is said once for objects and arrays.

Types nest inside types, and the kind of a nested one may be given in a second
way: by its number among the kinds. `Tagging` is the part of the grammar that
says how a kind may be given, and everything else does not depend on it. With
kinds by name only the grammar is too small (`numbered_component_is_read`); with
numbers inside other types it is exactly what is read
(`readType_eq_ok_iff_spelledBy`).
-/

namespace Kotlinize

/-! ## Results of decoders

Reading back asked only when a value is returned for a form that is known. Here
nothing is known of the JSON value, so for every decoder that occurs it has to be said
exactly which values make it return what. -/

/-- An object has a sole key if all of its members have that key. -/
theorem Json.sole?_eq_some_iff {members : List (String × Json)} {key : String} {w : Json} :
    sole? members = some (key, w) ↔ (∀ m ∈ members, m.1 = key) ∧ get? key members = some w := by
  cases members with
  | nil => simp [sole?, get?]
  | cons m rest =>
    obtain ⟨k, v⟩ := m
    by_cases hkeys : k = key
    · subst hkeys
      have hget : get? k ((k, v) :: rest) = some ((get? k rest).getD v) := by
        rw [get?, if_pos rfl]
        cases get? k rest <;> rfl
      rw [hget, sole?]
      simp
    · simp [sole?, hkeys]

variable {α β : Type}

namespace Fields.Reads

variable {key : String} {d : Decoder α} {scope : Scope} {get : String → Option Json}

/-- Fields are read as an image exactly if they are read as a value with that image. -/
theorem map_iff {f : α → β} {fs : Fields α} {b : β} :
    (f <$> fs).Reads scope get b ↔ ∃ a, fs.Reads scope get a ∧ f a = b := by
  refine ofMembers_both_eq_ok.trans ⟨?_, ?_⟩
  · rintro ⟨g, a, hg, ha, rfl⟩
    cases hg
    exact ⟨a, ha, rfl⟩
  · rintro ⟨a, ha, rfl⟩
    exact ⟨f, a, rfl, ha, rfl⟩

/-- Two descriptions are read exactly if each of them is. -/
theorem seq_iff {fs : Fields (α → β)} {gs : Fields α} {b : β} :
    (fs <*> gs).Reads scope get b
      ↔ ∃ f a, fs.Reads scope get f ∧ gs.Reads scope get a ∧ f a = b :=
  ofMembers_both_eq_ok

/-- A field without a default has to be there. -/
theorem required_iff {a : α} :
    (Fields.required key d).Reads scope get a ↔ ∃ v, get key = some v ∧ d scope v = .ok a :=
  ofMembers_field_eq_ok.trans (by simp)

/-- A field that is absent is read as its default, and as nothing else. -/
theorem defaulted_iff {a default : α} :
    (Fields.defaulted key d default).Reads scope get a
      ↔ (∃ v, get key = some v ∧ d scope v = .ok a) ∨ (get key = none ∧ default = a) :=
  ofMembers_field_eq_ok.trans (by simp)

end Fields.Reads

namespace Decoder

variable {d : Decoder α} {scope : Scope} {v : Json}

/-- A text is read from a string only. -/
theorem text_eq_ok {s : String} : text scope v = .ok s ↔ v = .str s := by
  cases v <;> simp [text]

/-- The absence of a value is written `null`. -/
theorem nullable_eq_ok_none : nullable d scope v = .ok none ↔ v = .null := by
  by_cases hv : v = .null
  · subst hv
    exact ⟨fun _ => rfl, fun _ => rfl⟩
  · rw [nullable_eq_map hv, map_eq_ok]
    simp [hv]

/-- An optional value that is there, if there is none that is written `null`. -/
theorem nullable_eq_ok_some {a : α} (hnull : ∀ b, d scope .null ≠ .ok b) :
    nullable d scope v = .ok (some a) ↔ d scope v = .ok a := by
  by_cases hv : v = .null
  · subst hv
    exact ⟨nofun, fun h => absurd h (hnull a)⟩
  · rw [nullable_eq_map hv, map_eq_ok]
    simp

/-- A list is read from an array only. -/
theorem list_eq_ok {as : List α} :
    list d scope v = .ok as ↔ ∃ vs, v = .arr vs ∧ vs.mapM (d scope) = .ok as := by
  cases v <;> simp [list]

theorem mapM_nil_eq_ok {vs : List Json} : vs.mapM (d scope) = .ok [] ↔ vs = [] := by
  cases vs with
  | nil => exact ⟨fun _ => rfl, fun _ => rfl⟩
  | cons v vs =>
    rw [List.mapM_cons]
    simp [bind_eq_ok, pure, Except.pure]

/-- A list with a first element is read from an array with one. -/
theorem mapM_cons_eq_ok_iff {vs : List Json} {a : α} {as : List α} :
    vs.mapM (d scope) = .ok (a :: as)
      ↔ ∃ w ws, vs = w :: ws ∧ d scope w = .ok a ∧ ws.mapM (d scope) = .ok as := by
  cases vs with
  | nil => exact ⟨nofun, nofun⟩
  | cons v vs =>
    rw [List.mapM_cons]
    simp [bind_eq_ok, pure, Except.pure]

/-- Choosing a case by name is looking it up. -/
theorem choose_eq_ok {cases : List (String × β)} {name : String} {b : β} :
    choose name cases = .ok b ↔ cases.lookup name = some b := by
  unfold choose
  cases cases.lookup name <;> simp

/-- The case of a number is the one that its name is looked up as. -/
theorem lookup_of_getElem? {cases : List (String × β)} (hnodup : (cases.map Prod.fst).Nodup)
    {n : Nat} {c : String × β} (hn : cases[n]? = some c) : cases.lookup c.1 = some c.2 :=
  List.lookup_of_mem hnodup (List.mem_of_getElem? hn)

/-- **Choosing a kind** is naming it, or inside a tagged record giving its number. -/
theorem chooseKind_eq_ok_iff {cases : List (String × β)} (hnodup : (cases.map Prod.fst).Nodup)
    {b : β} :
    chooseKind scope cases v = .ok b
      ↔ ∃ name, (v = .str name
          ∨ scope = .inner ∧ ∃ n : Nat, v = .int n ∧ (cases.map Prod.fst)[n]? = some name)
        ∧ cases.lookup name = some b := by
  unfold chooseKind
  split
  next name =>
    rw [choose_eq_ok]
    simp
  -- a number stands for the name at that place, and the name finds the same case again
  next n =>
    constructor
    · intro h
      cases hn : cases[n]? with
      | none => rw [hn] at h; cases h
      | some c =>
        rw [hn] at h
        cases h
        refine ⟨c.1, .inr ⟨rfl, n, rfl, ?_⟩, lookup_of_getElem? hnodup hn⟩
        rw [List.getElem?_map, hn]
        rfl
    · rintro ⟨name, h | ⟨_, m, hm, hname⟩, hlookup⟩
      · cases h
      · cases hm
        rw [List.getElem?_map] at hname
        obtain ⟨c, hc, rfl⟩ := Option.map_eq_some_iff.mp hname
        cases (lookup_of_getElem? hnodup hc).symm.trans hlookup
        rw [hc]
  next hname hnumber =>
    refine ⟨nofun, ?_⟩
    rintro ⟨name, rfl | ⟨rfl, n, rfl, _⟩, _⟩
    · exact absurd rfl (hname name)
    · exact absurd rfl (hnumber n rfl)

end Decoder

namespace Java

/-! ## The grammar

The grammar follows the type. A property of the record is asked of what the record
holds under its keys, so that it can be stated for objects and arrays at once; what
is in a field is asked of the value there, by recursion. -/

/-- **How kinds may be given**: which values stand for the kind of a given name, in which scope. -/
abbrev Tagging := Scope → String → Json → Prop

/-- Kinds are given by their names, wherever they stand. -/
def Tagging.byName : Tagging := fun _ name v =>
  v = .str name

/-- Kinds are given by their names, and inside another descriptor also by their numbers. -/
def Tagging.byNameOrNumber : Tagging := fun scope name v =>
  v = .str name
    ∨ scope = .inner ∧ ∃ n : Nat, v = .int n ∧ (Ty.slots.map Prod.fst)[n]? = some name

/-- A record with the given slots and with fields, by key, that have a property. -/
def IsRecord (slots : List Slot) (fields : (String → Option Json) → Prop) (v : Json) : Prop :=
  Fits slots v ∧ fields (view slots v)

/-- A tagged record of the kind with the given name. -/
def IsTagged (tags : Tagging) (scope : Scope) (name : String)
    (fields : (String → Option Json) → Prop) (v : Json) : Prop :=
  ∃ kind slots, kind? v = some kind ∧ tags scope name kind ∧ Ty.slots.lookup name = some slots
    ∧ IsRecord (kindSlot :: slots) fields v

/-- An object with the given key as its only one. -/
def IsSole (key : String) (spelled : Json → Prop) (v : Json) : Prop :=
  ∃ members w, v = .obj members ∧ (∀ m ∈ members, m.1 = key) ∧ Json.get? key members = some w
    ∧ spelled w

section Fields

variable (get : String → Option Json) (key : String)

/-- A field that is present. -/
def Holds (spelled : Json → Prop) : Prop :=
  ∃ v, get key = some v ∧ spelled v

/-- An optional field without a value: it is absent, or it is `null`. -/
def Vacant : Prop :=
  get key = none ∨ get key = some .null

/-- A list: it is an array, or it is empty and absent. -/
def HoldsList {α : Type} (as : List α) (spelled : List Json → Prop) : Prop :=
  Holds get key (fun v => ∃ vs, v = .arr vs ∧ spelled vs) ∨ (get key = none ∧ as = [])

/-- A text that may be missing. -/
def HoldsText : Option String → Prop
  | none => Vacant get key
  | some s => Holds get key (· = .str s)

end Fields

/-- **The spellings of a reference.** -/
def Reference.SpelledBy : Reference → Json → Prop
  | ⟨name, none⟩ => IsRecord Reference.slots fun get =>
      Holds get "name" (· = .str name) ∧ Vacant get "qualifier"
  | ⟨name, some qualifier⟩ => IsRecord Reference.slots fun get =>
      Holds get "name" (· = .str name) ∧ Holds get "qualifier" fun v => qualifier.SpelledBy v

mutual

/-- **The spellings of a type.** -/
def Ty.SpelledBy (tags : Tagging) : Ty → Scope → Json → Prop
  | .primitive name, scope => IsTagged tags scope "primitive" fun get =>
      Holds get "name" (· = .str name)
  | .array component, scope => IsTagged tags scope "array" fun get =>
      Holds get "component" fun v => component.SpelledBy tags .inner v
  | .classType c, scope => IsTagged tags scope "class" fun get => c.FieldsSpelledBy tags get
  | .wildcard none, scope => IsTagged tags scope "wildcard" fun get => Vacant get "bound"
  | .wildcard (some bound), scope => IsTagged tags scope "wildcard" fun get =>
      Holds get "bound" fun v => bound.SpelledBy tags v
  | .ellipsis component, scope => IsTagged tags scope "ellipsis" fun get =>
      Holds get "component" fun v => component.SpelledBy tags .inner v

/-- The spellings of the bound of a wildcard. -/
def Bound.SpelledBy (tags : Tagging) : Bound → Json → Prop
  | .upper t => IsSole "extends" fun v => t.SpelledBy tags .inner v
  | .lower t => IsSole "super" fun v => t.SpelledBy tags .inner v

/-- The spellings of the fields of a class type. -/
def ClassTy.FieldsSpelledBy (tags : Tagging) : ClassTy → (String → Option Json) → Prop
  | ⟨canonicalText, className, parameters, reference, declaration⟩, get =>
    Holds get "canonical_text" (· = .str canonicalText)
      ∧ HoldsText get "class_name" className
      ∧ HoldsList get "parameters" parameters (fun vs => Ty.AllSpelledBy tags parameters vs)
      ∧ (match reference with
        | none => Vacant get "reference"
        | some r => Holds get "reference" fun v => r.SpelledBy v)
      ∧ (match declaration with
        | none => Vacant get "resolved"
        | some d => Holds get "resolved" fun v => d.SpelledBy tags v)

/-- The spellings of a declaration. -/
def Declaration.SpelledBy (tags : Tagging) : Declaration → Json → Prop
  | ⟨qualifiedName, typeParameters⟩ => IsRecord Declaration.slots fun get =>
      HoldsText get "qualified_name" qualifiedName
        ∧ HoldsList get "type_parameters" typeParameters fun vs =>
            TypeParameter.AllSpelledBy tags typeParameters vs

/-- The spellings of several types, one for each. -/
def Ty.AllSpelledBy (tags : Tagging) : List Ty → List Json → Prop
  | [], vs => vs = []
  | t :: rest, vs =>
    ∃ w ws, vs = w :: ws ∧ t.SpelledBy tags .inner w ∧ Ty.AllSpelledBy tags rest ws

/-- The spellings of several type parameters. -/
def TypeParameter.AllSpelledBy (tags : Tagging) : List TypeParameter → List Json → Prop
  | [], vs => vs = []
  | ⟨name, bounds⟩ :: rest, vs =>
    ∃ w ws, vs = w :: ws
      ∧ IsRecord TypeParameter.slots (fun get =>
          Holds get "name" (· = .str name)
            ∧ HoldsList get "bounds" bounds fun us => ClassTy.AllSpelledBy tags bounds us) w
      ∧ TypeParameter.AllSpelledBy tags rest ws

/-- The spellings of several class types, where nothing but class types can stand. -/
def ClassTy.AllSpelledBy (tags : Tagging) : List ClassTy → List Json → Prop
  | [], vs => vs = []
  | c :: rest, vs =>
    ∃ w ws, vs = w :: ws ∧ IsRecord ClassTy.slots (fun get => c.FieldsSpelledBy tags get) w
      ∧ ClassTy.AllSpelledBy tags rest ws

end

/-! ## Reading fields

The four sorts of fields that descriptors have: a text, an optional value, an
optional text, and a list. For each of them a description is read exactly if the
grammar allows what is found under the key. -/

section Fields

variable {scope : Scope} {get : String → Option Json} {key : String}
  {spelled spelled' : Json → Prop}

/-- A field is asked for by what it asks of the value. -/
theorem holds_congr (h : ∀ v, spelled v ↔ spelled' v) :
    Holds get key spelled ↔ Holds get key spelled' :=
  exists_congr fun v => and_congr_right fun _ => h v

theorem holdsList_congr {as : List α} {spelled spelled' : List Json → Prop}
    (h : ∀ vs, spelled vs ↔ spelled' vs) :
    HoldsList get key as spelled ↔ HoldsList get key as spelled' :=
  or_congr_left (holds_congr fun _ => exists_congr fun vs => and_congr_right fun _ => h vs)

/-- **A text** is read where a string is found. -/
theorem reads_text {s : String} :
    (Fields.required key .text).Reads scope get s ↔ Holds get key (· = .str s) :=
  Fields.Reads.required_iff.trans (holds_congr fun _ => Decoder.text_eq_ok)

/-- **An optional value is missing** where nothing is found, or `null`. -/
theorem reads_nullable_none {d : Decoder α} :
    (Fields.defaulted key (.nullable d) none).Reads scope get none ↔ Vacant get key := by
  rw [Fields.Reads.defaulted_iff]
  simp only [Decoder.nullable_eq_ok_none, exists_eq_right, and_true]
  exact or_comm

/-- **An optional value is there** where it is found. Its own decoder must not
accept `null`, which would be ambiguous. -/
theorem reads_nullable_some {d : Decoder α} (hnull : ∀ b, d scope .null ≠ .ok b) {a : α} :
    (Fields.defaulted key (.nullable d) none).Reads scope get (some a)
      ↔ Holds get key fun v => d scope v = .ok a := by
  rw [Fields.Reads.defaulted_iff]
  simp only [Decoder.nullable_eq_ok_some hnull, reduceCtorEq, and_false, or_false]
  rfl

theorem reads_nullable_text {o : Option String} :
    (Fields.defaulted key (.nullable .text) none).Reads scope get o ↔ HoldsText get key o := by
  cases o with
  | none => exact reads_nullable_none
  | some s =>
    rw [reads_nullable_some nofun]
    exact holds_congr fun _ => Decoder.text_eq_ok

/-- **A list** is read from an array, and the empty one where nothing is found. -/
theorem reads_list {d : Decoder α} {as : List α} :
    (Fields.defaulted key (.list d) []).Reads scope get as
      ↔ HoldsList get key as fun vs => vs.mapM (d scope) = .ok as := by
  rw [Fields.Reads.defaulted_iff]
  refine or_congr (holds_congr fun _ => Decoder.list_eq_ok) (and_congr_right fun _ => eq_comm)

end Fields

/-! ## Reading records

The properties of records that the grammar is made of respect equivalence of what
they ask for, so a statement about the fields carries over to the record. With the
layouts of records known, a decoder for a record is such a property. -/

section Records

variable {tags : Tagging} {scope : Scope} {slots : List Slot} {name : String} {v : Json}
  {fields fields' : (String → Option Json) → Prop}

theorem isRecord_congr (h : ∀ get, fields get ↔ fields' get) :
    IsRecord slots fields v ↔ IsRecord slots fields' v :=
  and_congr_right fun _ => h _

theorem isTagged_congr (h : ∀ get, fields get ↔ fields' get) :
    IsTagged tags scope name fields v ↔ IsTagged tags scope name fields' v :=
  exists_congr fun _ => exists_congr fun _ => and_congr_right fun _ => and_congr_right fun _ =>
    and_congr_right fun _ => isRecord_congr h

theorem isSole_congr {key : String} {spelled spelled' : Json → Prop}
    (h : ∀ w, spelled w ↔ spelled' w) : IsSole key spelled v ↔ IsSole key spelled' v :=
  exists_congr fun _ => exists_congr fun w => and_congr_right fun _ => and_congr_right fun _ =>
    and_congr_right fun _ => h w

/-- Fields that cannot be read make no tagged record. -/
theorem not_isTagged_false : ¬ IsTagged tags scope name (fun _ => False) v := by
  rintro ⟨_, _, _, _, _, _, hfalse⟩
  exact hfalse

/-- **A record is read** if its fields are, from the view that its layout gives of the value. -/
theorem record_eq_ok_iff {r : Record α} (h : Follows r.fields slots)
    (hnodup : (slots.map Slot.key).Nodup) {a : α} :
    Decoder.record r scope v = .ok a ↔ IsRecord slots (fun get => r.fields.Reads scope get a) v :=
  h.record hnodup

end Records

/-- Cases that agree have the same names, each with related meanings. -/
theorem lookup_of_casesAgree {γ : Type} {related : β → γ → Prop} {cs : List (String × β)}
    {ds : List (String × γ)} (h : CasesAgree related cs ds) {name : String} {b : β}
    (hb : cs.lookup name = some b) : ∃ c, ds.lookup name = some c ∧ related b c := by
  have hchoice := h.choose name
  rw [Decoder.choose_eq_ok.mpr hb] at hchoice
  generalize hy : Decoder.choose name ds = y at hchoice
  cases hchoice with
  | ok hrelated => exact ⟨_, Decoder.choose_eq_ok.mp hy, hrelated⟩

/-- **Reading a type** is choosing one of its kinds and reading the fields of that kind. -/
theorem Ty.decoder_eq_ok {scope : Scope} {v : Json} {t : Ty} :
    Ty.decoder scope v = .ok t
      ↔ ∃ name r, (name, r) ∈ Ty.cases Ty.decoder Reference.decoder ClassTy.decoder
        ∧ IsTagged .byNameOrNumber scope name (fun get => r.fields.Reads .inner get t) v := by
  have hnames := Ty.follows.names_eq
  have hnodup : ((Ty.cases Ty.decoder Reference.decoder ClassTy.decoder).map Prod.fst).Nodup := by
    rw [hnames]
    decide
  rw [congrFun (congrFun Ty.decoder_eq scope) v]
  constructor
  · intro h
    obtain ⟨kind, r, hkind, hchoose⟩ := chooses_of_tagged h
    obtain ⟨name, hname, hlookup⟩ := (Decoder.chooseKind_eq_ok_iff hnodup).mp hchoose
    -- the slots of the kind are those that its record follows
    obtain ⟨slots, hslots, hfollows⟩ := lookup_of_casesAgree Ty.follows hlookup
    rw [hnames] at hname
    exact ⟨name, r, List.mem_of_lookup hlookup, kind, slots, hkind, hname, hslots,
      (hfollows.tagged hkind hchoose).mp h⟩
  · rintro ⟨name, r, hmem, kind, slots, hkind, hname, hslots, hrecord⟩
    have hlookup := List.lookup_of_mem hnodup hmem
    obtain ⟨slots', hslots', hfollows⟩ := lookup_of_casesAgree Ty.follows hlookup
    cases hslots.symm.trans hslots'
    have hchoose : Decoder.chooseKind scope
        (Ty.cases Ty.decoder Reference.decoder ClassTy.decoder) kind = .ok r :=
      (Decoder.chooseKind_eq_ok_iff hnodup).mpr ⟨name, by rwa [hnames], hlookup⟩
    exact (hfollows.tagged hkind hchoose).mpr hrecord

/-- The name of the kind of a type. -/
def Ty.kind : Ty → String
  | .primitive _ => "primitive"
  | .array _ => "array"
  | .classType _ => "class"
  | .wildcard _ => "wildcard"
  | .ellipsis _ => "ellipsis"

/-- The fields of a type are read, by the decoders for what it contains. -/
def Ty.FieldsRead (get : String → Option Json) : Ty → Prop
  | .primitive name => (Fields.required "name" .text).Reads .inner get name
  | .array t => (Fields.required "component" Ty.decoder).Reads .inner get t
  | .classType c =>
    (ClassTy.record Ty.decoder Reference.decoder ClassTy.decoder).fields.Reads .inner get c
  | .wildcard b =>
    (Fields.defaulted "bound" (.nullable (Bound.decoder Ty.decoder)) none).Reads .inner get b
  | .ellipsis t => (Fields.required "component" Ty.decoder).Reads .inner get t

/-- **A type is read from a tagged record of its own kind.** Its constructor is
known here, so the kind is no longer a choice. -/
theorem Ty.decoder_eq_ok_iff_fieldsRead {scope : Scope} {v : Json} {t : Ty} :
    Ty.decoder scope v = .ok t
      ↔ IsTagged .byNameOrNumber scope t.kind (fun get => t.FieldsRead get) v := by
  rw [Ty.decoder_eq_ok]
  -- each kind makes types of one constructor, so only the kind of `t` is left
  cases t <;>
    simp [Ty.cases, or_and_right, exists_or, Fields.Reads.map_iff, not_isTagged_false, Ty.kind,
      Ty.FieldsRead]

/-- `null` is no reference, so it can stand for one that is missing. -/
theorem Reference.decoder_null (scope : Scope) (r : Reference) :
    Reference.decoder scope .null ≠ .ok r := by
  rw [Reference.decoder_eq]
  exact nofun

theorem Reference.reads_iff {d : Decoder Reference} {scope : Scope}
    {get : String → Option Json} {name : String} {qualifier : Option Reference} :
    (Reference.record d).fields.Reads scope get ⟨name, qualifier⟩
      ↔ (Fields.required "name" .text).Reads scope get name
        ∧ (Fields.defaulted "qualifier" (.nullable d) none).Reads scope get qualifier := by
  constructor
  · intro h
    obtain ⟨_, q, h, hq, heq⟩ := Fields.Reads.seq_iff.mp h
    obtain ⟨s, hs, rfl⟩ := Fields.Reads.map_iff.mp h
    cases heq
    exact ⟨hs, hq⟩
  · rintro ⟨hs, hq⟩
    exact .seq (.map _ hs) hq

/-- **A reference is read from its spellings**, and from nothing else. -/
theorem Reference.decoder_eq_ok_iff {scope : Scope} : ∀ (r : Reference) (v : Json),
    Reference.decoder scope v = .ok r ↔ r.SpelledBy v
  | ⟨name, none⟩, v => by
    rw [congrFun (congrFun Reference.decoder_eq scope) v,
      record_eq_ok_iff Reference.follows (by decide)]
    exact isRecord_congr fun get => Reference.reads_iff.trans
      (and_congr reads_text reads_nullable_none)
  | ⟨name, some qualifier⟩, v => by
    rw [congrFun (congrFun Reference.decoder_eq scope) v,
      record_eq_ok_iff Reference.follows (by decide)]
    exact isRecord_congr fun get => Reference.reads_iff.trans
      (and_congr reads_text ((reads_nullable_some (Reference.decoder_null scope)).trans
        (holds_congr fun w => qualifier.decoder_eq_ok_iff w)))

/-! ## Types

What is left is the recursion through types. The bound of a wildcard comes first,
since it is an object with one key and no record. Then the fields of each record are
listed one by one, and the mutual recursion of the grammar is followed. -/

/-- An object is read as a bound through its only key. -/
theorem Bound.decoder_of_sole {d : Decoder Ty} {scope : Scope} {members : List (String × Json)}
    {key : String} {w : Json} (h : Json.sole? members = some (key, w)) :
    Bound.decoder d scope (.obj members) = Bound.decoder d scope (.obj [(key, w)]) := by
  unfold Bound.decoder Decoder.variant
  dsimp only
  rw [h]
  rfl

/-- A bound is not read from a name alone, nor from anything but an object with one key. -/
theorem Bound.exists_sole {scope : Scope} {v : Json} {b : Bound}
    (h : Bound.decoder Ty.decoder scope v = .ok b) :
    ∃ members key w, v = .obj members ∧ Json.sole? members = some (key, w) := by
  unfold Bound.decoder Decoder.variant at h
  split at h
  next name =>
    obtain ⟨p, hp, hbare⟩ := bind_eq_ok.mp h
    have hmem := List.mem_of_lookup (Decoder.choose_eq_ok.mp hp)
    simp only [List.mem_cons, Prod.mk.injEq, List.not_mem_nil, or_false] at hmem
    obtain ⟨_, rfl⟩ | ⟨_, rfl⟩ := hmem <;> cases hbare
  next members =>
    split at h
    next => cases h
    next key w hsole => exact ⟨members, key, w, rfl, hsole⟩
  next => cases h

/-- **A bound is read through its key**, which says on which side of the type it is. -/
theorem Bound.decoder_eq_ok {scope : Scope} {v : Json} {b : Bound} :
    Bound.decoder Ty.decoder scope v = .ok b
      ↔ ∃ t, IsSole "extends" (Ty.decoder scope · = .ok t) v ∧ .upper t = b
        ∨ IsSole "super" (Ty.decoder scope · = .ok t) v ∧ .lower t = b := by
  constructor
  · intro h
    obtain ⟨members, key, w, rfl, hsole⟩ := Bound.exists_sole h
    rw [Bound.decoder_of_sole hsole, Bound.decoder_obj] at h
    obtain ⟨hkeys, hget⟩ := Json.sole?_eq_some_iff.mp hsole
    obtain ⟨t, ht, ⟨rfl, rfl⟩ | ⟨rfl, rfl⟩⟩ := h
    · exact ⟨t, .inl ⟨⟨members, w, rfl, hkeys, hget, ht⟩, rfl⟩⟩
    · exact ⟨t, .inr ⟨⟨members, w, rfl, hkeys, hget, ht⟩, rfl⟩⟩
  · rintro ⟨t, ⟨hsole, rfl⟩ | ⟨hsole, rfl⟩⟩ <;>
      obtain ⟨members, w, rfl, hkeys, hget, ht⟩ := hsole
    · rw [Bound.decoder_of_sole (Json.sole?_eq_some_iff.mpr ⟨hkeys, hget⟩), Bound.decoder_obj]
      exact ⟨t, ht, .inl ⟨rfl, rfl⟩⟩
    · rw [Bound.decoder_of_sole (Json.sole?_eq_some_iff.mpr ⟨hkeys, hget⟩), Bound.decoder_obj]
      exact ⟨t, ht, .inr ⟨rfl, rfl⟩⟩

section Fields

variable {scope : Scope} {get : String → Option Json}

theorem TypeParameter.reads_iff {d : Decoder ClassTy} {name : String} {bounds : List ClassTy} :
    (TypeParameter.record d).fields.Reads scope get ⟨name, bounds⟩
      ↔ (Fields.required "name" .text).Reads scope get name
        ∧ (Fields.defaulted "bounds" (.list d) []).Reads scope get bounds := by
  constructor
  · intro h
    obtain ⟨_, bs, h, hbs, heq⟩ := Fields.Reads.seq_iff.mp h
    obtain ⟨s, hs, rfl⟩ := Fields.Reads.map_iff.mp h
    cases heq
    exact ⟨hs, hbs⟩
  · rintro ⟨hs, hbs⟩
    exact .seq (.map _ hs) hbs

theorem Declaration.reads_iff {d : Decoder ClassTy} {qualifiedName : Option String}
    {typeParameters : List TypeParameter} :
    (Declaration.record d).fields.Reads scope get ⟨qualifiedName, typeParameters⟩
      ↔ (Fields.defaulted "qualified_name" (.nullable .text) none).Reads scope get qualifiedName
        ∧ (Fields.defaulted "type_parameters" (.list (.record (TypeParameter.record d))) []).Reads
          scope get typeParameters := by
  constructor
  · intro h
    obtain ⟨_, ps, h, hps, heq⟩ := Fields.Reads.seq_iff.mp h
    obtain ⟨q, hq, rfl⟩ := Fields.Reads.map_iff.mp h
    cases heq
    exact ⟨hq, hps⟩
  · rintro ⟨hq, hps⟩
    exact .seq (.map _ hq) hps

theorem ClassTy.reads_iff {type : Decoder Ty} {ref : Decoder Reference} {bound : Decoder ClassTy}
    {canonicalText : String} {className : Option String} {parameters : List Ty}
    {reference : Option Reference} {declaration : Option Declaration} :
    (ClassTy.record type ref bound).fields.Reads scope get
        ⟨canonicalText, className, parameters, reference, declaration⟩
      ↔ (Fields.required "canonical_text" .text).Reads scope get canonicalText
        ∧ (Fields.defaulted "class_name" (.nullable .text) none).Reads scope get className
        ∧ (Fields.defaulted "parameters" (.list type) []).Reads scope get parameters
        ∧ (Fields.defaulted "reference" (.nullable ref) none).Reads scope get reference
        ∧ (Fields.defaulted "resolved" (.nullable (.record (Declaration.record bound))) none).Reads
          scope get declaration := by
  constructor
  · intro h
    -- the fields were read one after another, the last one by the outermost step
    obtain ⟨_, d, h₄, hd, heq⟩ := Fields.Reads.seq_iff.mp h
    obtain ⟨_, r, h₃, hr, rfl⟩ := Fields.Reads.seq_iff.mp h₄
    obtain ⟨_, ps, h₂, hps, rfl⟩ := Fields.Reads.seq_iff.mp h₃
    obtain ⟨_, n, h₁, hn, rfl⟩ := Fields.Reads.seq_iff.mp h₂
    obtain ⟨s, hs, rfl⟩ := Fields.Reads.map_iff.mp h₁
    cases heq
    exact ⟨hs, hn, hps, hr, hd⟩
  · rintro ⟨hs, hn, hps, hr, hd⟩
    exact .seq (.seq (.seq (.seq (.map _ hs) hn) hps) hr) hd

end Fields

mutual

/-- **A type is read from its spellings**, and from nothing else. -/
theorem Ty.decoder_eq_ok_iff : ∀ (t : Ty) (scope : Scope) (v : Json),
    Ty.decoder scope v = .ok t ↔ t.SpelledBy .byNameOrNumber scope v
  | .primitive _, _, _ =>
    Ty.decoder_eq_ok_iff_fieldsRead.trans (isTagged_congr fun _ => reads_text)
  | .array component, _, _ =>
    Ty.decoder_eq_ok_iff_fieldsRead.trans (isTagged_congr fun _ =>
      Fields.Reads.required_iff.trans (holds_congr (component.decoder_eq_ok_iff .inner)))
  | .classType c, _, _ =>
    Ty.decoder_eq_ok_iff_fieldsRead.trans (isTagged_congr c.reads_iff_fieldsSpelledBy)
  | .wildcard none, _, _ =>
    Ty.decoder_eq_ok_iff_fieldsRead.trans (isTagged_congr fun _ => reads_nullable_none)
  | .wildcard (some bound), _, _ =>
    Ty.decoder_eq_ok_iff_fieldsRead.trans (isTagged_congr fun _ =>
      (reads_nullable_some nofun).trans (holds_congr bound.decoder_eq_ok_iff))
  | .ellipsis component, _, _ =>
    Ty.decoder_eq_ok_iff_fieldsRead.trans (isTagged_congr fun _ =>
      Fields.Reads.required_iff.trans (holds_congr (component.decoder_eq_ok_iff .inner)))

/-- The bound of a wildcard is read from its spellings. -/
theorem Bound.decoder_eq_ok_iff : ∀ (b : Bound) (v : Json),
    Bound.decoder Ty.decoder .inner v = .ok b ↔ b.SpelledBy .byNameOrNumber v
  | .upper t, v => by
    rw [Bound.decoder_eq_ok, Bound.SpelledBy]
    simp only [reduceCtorEq, and_false, or_false, Bound.upper.injEq, exists_eq_right]
    exact isSole_congr (t.decoder_eq_ok_iff .inner)
  | .lower t, v => by
    rw [Bound.decoder_eq_ok, Bound.SpelledBy]
    simp only [reduceCtorEq, and_false, false_or, Bound.lower.injEq, exists_eq_right]
    exact isSole_congr (t.decoder_eq_ok_iff .inner)

/-- **The fields of a class type are read from their spellings.** -/
theorem ClassTy.reads_iff_fieldsSpelledBy : ∀ (c : ClassTy) (get : String → Option Json),
    (ClassTy.record Ty.decoder Reference.decoder ClassTy.decoder).fields.Reads .inner get c
      ↔ c.FieldsSpelledBy .byNameOrNumber get
  | ⟨canonicalText, className, parameters, reference, declaration⟩, get => by
    rw [ClassTy.reads_iff]
    unfold ClassTy.FieldsSpelledBy
    refine and_congr reads_text (and_congr reads_nullable_text (and_congr ?_ (and_congr ?_ ?_)))
    · exact reads_list.trans (holdsList_congr (Ty.mapM_decoder_iff parameters))
    · cases reference with
      | none => exact reads_nullable_none
      | some r =>
        exact (reads_nullable_some (Reference.decoder_null .inner)).trans
          (holds_congr r.decoder_eq_ok_iff)
    · cases declaration with
      | none => exact reads_nullable_none
      | some d => exact (reads_nullable_some nofun).trans (holds_congr d.decoder_eq_ok_iff)

/-- A declaration is read from its spellings. -/
theorem Declaration.decoder_eq_ok_iff : ∀ (d : Declaration) (v : Json),
    Decoder.record (Declaration.record ClassTy.decoder) .inner v = .ok d
      ↔ d.SpelledBy .byNameOrNumber v
  | ⟨qualifiedName, typeParameters⟩, v => by
    rw [record_eq_ok_iff Declaration.follows (by decide), Declaration.SpelledBy]
    exact isRecord_congr fun get => Declaration.reads_iff.trans (and_congr reads_nullable_text
      (reads_list.trans (holdsList_congr (TypeParameter.mapM_decoder_iff typeParameters))))

/-- Several types are read from their spellings, one after another. -/
theorem Ty.mapM_decoder_iff : ∀ (ts : List Ty) (vs : List Json),
    vs.mapM (Ty.decoder .inner) = .ok ts ↔ Ty.AllSpelledBy .byNameOrNumber ts vs
  | [], vs => Decoder.mapM_nil_eq_ok
  | t :: rest, vs => by
    rw [Decoder.mapM_cons_eq_ok_iff, Ty.AllSpelledBy]
    exact exists_congr fun w => exists_congr fun ws => and_congr_right fun _ =>
      and_congr (t.decoder_eq_ok_iff .inner w) (Ty.mapM_decoder_iff rest ws)

/-- Several type parameters are read from their spellings. -/
theorem TypeParameter.mapM_decoder_iff : ∀ (ps : List TypeParameter) (vs : List Json),
    vs.mapM (Decoder.record (TypeParameter.record ClassTy.decoder) .inner) = .ok ps
      ↔ TypeParameter.AllSpelledBy .byNameOrNumber ps vs
  | [], vs => Decoder.mapM_nil_eq_ok
  | ⟨name, bounds⟩ :: rest, vs => by
    rw [Decoder.mapM_cons_eq_ok_iff, TypeParameter.AllSpelledBy]
    refine exists_congr fun w => exists_congr fun ws => and_congr_right fun _ =>
      and_congr ?_ (TypeParameter.mapM_decoder_iff rest ws)
    rw [record_eq_ok_iff TypeParameter.follows (by decide)]
    exact isRecord_congr fun get => TypeParameter.reads_iff.trans (and_congr reads_text
      (reads_list.trans (holdsList_congr (ClassTy.mapM_decoder_iff bounds))))

/-- Several class types are read from their spellings. -/
theorem ClassTy.mapM_decoder_iff : ∀ (cs : List ClassTy) (vs : List Json),
    vs.mapM (ClassTy.decoder .inner) = .ok cs ↔ ClassTy.AllSpelledBy .byNameOrNumber cs vs
  | [], vs => Decoder.mapM_nil_eq_ok
  | c :: rest, vs => by
    rw [Decoder.mapM_cons_eq_ok_iff, ClassTy.AllSpelledBy]
    refine exists_congr fun w => exists_congr fun ws => and_congr_right fun _ =>
      and_congr ?_ (ClassTy.mapM_decoder_iff rest ws)
    rw [congrFun (congrFun ClassTy.decoder_eq .inner) w,
      record_eq_ok_iff ClassTy.follows (by decide)]
    exact isRecord_congr c.reads_iff_fieldsSpelledBy

end

/-- **Types are read from their spellings and from nothing else.** A spelling names the kind of
the type at every depth, and below the outermost descriptor it may give the number of the kind
instead. -/
theorem readType_eq_ok_iff_spelledBy (v : Json) (t : Ty) :
    readType v = .ok t ↔ t.SpelledBy .byNameOrNumber .outer v :=
  mapError_eq_ok.trans (t.decoder_eq_ok_iff .outer v)

/-- The component of an array is read from a descriptor with a number for its kind, and this is no
spelling of it by name. -/
theorem numbered_component_is_read :
    let v : Json := .obj [("kind", .str "array"),
      ("component", .obj [("kind", .int 0), ("name", .str "int")])]
    let t : Ty := .array (.primitive "int")
    readType v = .ok t ∧ ¬ t.SpelledBy .byName .outer v := by
  intro v t
  refine ⟨rfl, ?_⟩
  rintro ⟨_, _, _, _, _, _, w, hw, kind, _, hkind, htag, _⟩
  have hw : some (Json.obj [("kind", .int 0), ("name", .str "int")]) = some w := hw
  cases hw
  cases hkind
  cases htag

end Java

end Kotlinize
