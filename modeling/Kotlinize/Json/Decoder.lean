import Kotlinize.Json.Mismatch

/-!
# Reading domain values from JSON

A `Decoder` reads a value of the domain from a JSON value. Three shapes occur:

* a **record** is an object, or the array of its fields in order (`Decoder.record`);
* a **variant** is a name, or an object with that name as its single key (`Decoder.variant`);
* a **tagged** record names its kind itself, under the key `kind` or as the first element of an
  array (`Decoder.tagged`).

The fields of a record are described once, as a `Fields`, and both readings of a record follow
from that description. Of several faults in an object the one at the least key is reported, and
missing fields only if there is no other fault, in the order of the fields. Arrays are read from
left to right.
-/

namespace Kotlinize

/-- **Where a value stands.** Inside a tagged record three things are read differently: a kind may
be given by its number, a variant without data may carry an empty object, and surplus elements are
counted against the fields that were read. -/
inductive Scope where
  /-- Not inside a tagged record. -/
  | outer
  /-- Inside a tagged record. -/
  | inner
deriving DecidableEq, Repr

/-- **A reader of domain values from JSON values.** -/
abbrev Decoder (α : Type) := Scope → Json → Except Mismatch α

namespace Decoder

/-- A string. -/
def text : Decoder String := fun _ v =>
  match v with
  | .str s => .ok s
  | v => .error (.wrongType v.found .text)

/-- A truth value. -/
def flag : Decoder Bool := fun _ v =>
  match v with
  | .bool b => .ok b
  | v => .error (.wrongType v.found .flag)

/-- A signed integer of 64 bits. -/
def int64 : Decoder Int64 := fun _ v =>
  match v with
  | .int n =>
    if Int64.minValue.toInt ≤ n ∧ n ≤ Int64.maxValue.toInt then .ok (Int64.ofInt n)
    else .error (.wrongValue v.found .int64)
  | v => .error (.wrongType v.found .int64)

/-- A double; an integer stands for the double nearest to it. -/
def float64 : Decoder Float := fun _ v =>
  match v with
  | .float x => .ok x
  | .int n => .ok (Float.ofInt n)
  | v => .error (.wrongType v.found .float64)

/-- A single character, given as a string. -/
def character : Decoder Char := fun _ v =>
  match v with
  | .str s =>
    match s.toList with
    | [c] => .ok c
    | _ => .error (.wrongValue v.found .character)
  | v => .error (.wrongType v.found .character)

/-- A list, given as an array. -/
def list {α : Type} (element : Decoder α) : Decoder (List α) := fun scope v =>
  match v with
  | .arr elements => elements.mapM (element scope)
  | v => .error (.wrongType v.found .sequence)

/-- An optional value, with `null` for none. -/
def nullable {α : Type} (value : Decoder α) : Decoder (Option α) := fun scope v =>
  match v with
  | .null => .ok none
  | v => (value scope v).map some

/-- The decoder that is asked to look no deeper. -/
def tooDeep {α : Type} : Decoder α := fun _ _ => .error .tooDeep

/-- Applies a function to what is read. -/
def map {α β : Type} (f : α → β) (d : Decoder α) : Decoder β := fun scope v =>
  (d scope v).map f

end Decoder

/-! ## Fields -/

/-- **A fault in the members of an object.** -/
inductive Fault where
  /-- The value of a key does not fit. -/
  | unfit (key : String) (cause : Mismatch)
  /-- A field without default is absent. -/
  | absent (key : String)

/-- Of two faults, the one that is reported: the unfit value at the lesser key, then any unfit
value, then the first absent field. -/
def Fault.first : Fault → Fault → Fault
  | .unfit k e, .unfit l f => if l < k then .unfit l f else .unfit k e
  | .unfit k e, .absent _ => .unfit k e
  | .absent _, .unfit l f => .unfit l f
  | .absent k, .absent _ => .absent k

/-- The mismatch that a fault amounts to. -/
def Fault.mismatch : Fault → Mismatch
  | .unfit _ e => e
  | .absent k => .missing k

/-- **A description of the fields of a record**, as the two ways to read them. -/
structure Fields (α : Type) where
  /-- The number of fields. -/
  arity : Nat
  /-- Reads the fields from the members of an object, given by key. -/
  ofMembers : Scope → (String → Option Json) → Except Fault α
  /-- Reads the fields from the front of the elements of an array, the first of them at the given
  index, and returns the elements after them. The first argument makes the mismatch for a field
  that the array is too short for. -/
  ofElements : (Nat → Mismatch) → Scope → Nat → List Json → Except Mismatch (α × List Json)

namespace Fields

variable {α β : Type}

/-- No fields. -/
def done (a : α) : Fields α where
  arity := 0
  ofMembers _ _ := .ok a
  ofElements _ _ _ elements := .ok (a, elements)

/-- One field, with the values that stand for it where an object has no such key and where an
array ends before it. -/
def field (key : String) (value : Decoder α) (absent short : Option α) : Fields α where
  arity := 1
  ofMembers scope get :=
    match get key with
    | some v => (value scope v).mapError (.unfit key)
    | none => match absent with
      | some a => .ok a
      | none => .error (.absent key)
  ofElements tooShort scope index elements :=
    match elements with
    | v :: rest => (value scope v).map fun a => (a, rest)
    | [] => match short with
      | some a => .ok (a, [])
      | none => .error (tooShort index)

/-- A field that must be present. -/
def required (key : String) (value : Decoder α) : Fields α :=
  field key value none none

/-- A field with a default. -/
def defaulted (key : String) (value : Decoder α) (default : α) : Fields α :=
  field key value (some default) (some default)

/-- An optional field: `null` stands for none, and so does its absence from an object, but an
array has to hold it. -/
def optional (key : String) (value : Decoder α) : Fields (Option α) :=
  field key (.nullable value) (some none) none

/-- The fields of the first description, then those of the second. -/
def both (fs : Fields (α → β)) (gs : Fields α) : Fields β where
  arity := fs.arity + gs.arity
  ofMembers scope get :=
    match fs.ofMembers scope get, gs.ofMembers scope get with
    | .ok f, .ok a => .ok (f a)
    | .error e, .ok _ => .error e
    | .ok _, .error e => .error e
    | .error e, .error e' => .error (e.first e')
  ofElements tooShort scope index elements := do
    let (f, rest) ← fs.ofElements tooShort scope index elements
    let (a, rest) ← gs.ofElements tooShort scope (index + fs.arity) rest
    .ok (f a, rest)

/-- Applies a function to the fields. -/
def map (f : α → β) (fs : Fields α) : Fields β :=
  (done f).both fs

instance : Seq Fields where
  seq fs gs := fs.both (gs ())

instance : Functor Fields where
  map := Fields.map

/-- Reads the fields of an object. -/
def ofObject (fs : Fields α) (scope : Scope) (members : List (String × Json)) :
    Except Mismatch α :=
  (fs.ofMembers scope (Json.get? · members)).mapError Fault.mismatch

/-- Reads the fields of a record with the given title from an array of just these fields. -/
def ofArray (fs : Fields α) (title : String) (scope : Scope) (elements : List Json) :
    Except Mismatch α := do
  let tooShort index := .wrongLength index (.allFields title fs.arity)
  let (a, rest) ← fs.ofElements tooShort scope 0 elements
  if rest.isEmpty then .ok a
  else .error (.wrongLength elements.length
    (match scope with
      | .outer => .fewerElements
      | .inner => .elements fs.arity))

end Fields

/-- **A record**: the title that messages give it, and its fields. -/
structure Record (α : Type) where
  title : String
  fields : Fields α

/-- **The data of a variant.** -/
inductive Payload (α : Type) where
  /-- No data. -/
  | unit (value : α)
  /-- A value of its own. -/
  | value (decoder : Decoder α)
  /-- Fields, given as an object. -/
  | fields (fields : Fields α)

namespace Decoder

variable {α : Type}

/-- **A record**: the object, or the array, of its fields. -/
def record (r : Record α) : Decoder α := fun scope v =>
  match v with
  | .obj members => r.fields.ofObject scope members
  | .arr elements => r.fields.ofArray r.title scope elements
  | v => .error (.wrongType v.found (.record r.title))

/-- The choice among named cases. -/
def choose {β : Type} (name : String) (cases : List (String × β)) : Except Mismatch β :=
  match cases.lookup name with
  | some b => .ok b
  | none => .error (.unknownVariant name (cases.map Prod.fst))

/-- The choice among named cases that a JSON value makes: by name, or inside a tagged record also
by number. -/
def chooseKind {β : Type} (scope : Scope) (cases : List (String × β)) (v : Json) :
    Except Mismatch β :=
  match scope, v with
  | _, .str name => choose name cases
  | .inner, .int (.ofNat n) =>
    match cases[n]? with
    | some (_, b) => .ok b
    | none => .error (.wrongValue v.found (.kindNumber cases.length))
  | _, v => .error (.wrongType v.found .kind)

/-- The key that holds the kind of a tagged record. -/
def kindKey : String := "kind"

/-- **A tagged record**: an object with the kind among its members, or an array with the kind
before the fields. The kind is judged first, and what it governs stands in the inner scope. -/
def tagged (name : String) (cases : List (String × Record α)) : Decoder α := fun scope v =>
  match v with
  | .obj members =>
    match Json.get? kindKey members with
    | none => .error (.missing kindKey)
    | some kind => do
      let r ← chooseKind scope cases kind
      r.fields.ofObject .inner members
  | .arr [] => .error (.missing kindKey)
  | .arr (kind :: elements) => do
    let r ← chooseKind scope cases kind
    r.fields.ofArray r.title .inner elements
  | v => .error (.wrongType v.found (.tagged name))

/-- Whether a value may stand for the data of a variant without data. -/
def isUnit (scope : Scope) (v : Json) : Bool :=
  match scope, v with
  | _, .null => true
  | .inner, .obj [] => true
  | _, _ => false

/-- The data of a variant whose name stands alone. -/
def bare (p : Payload α) : Except Mismatch α :=
  match p with
  | .unit a => .ok a
  | .value _ => .error (.wrongType .bareVariant .variantValue)
  | .fields _ => .error (.wrongType .bareVariant .variantFields)

/-- The data of a variant, read from the value of its key. -/
def payload (p : Payload α) : Decoder α := fun scope v =>
  match p with
  | .unit a => if isUnit scope v then .ok a else .error (.wrongType v.found .unit)
  | .value d => d scope v
  | .fields fs =>
    match v with
    | .obj members => fs.ofObject scope members
    | v => .error (.wrongType v.found .variantFields)

/-- **A variant**: its name, or an object with its name as the single key. -/
def variant (cases : List (String × Payload α)) : Decoder α := fun scope v =>
  match v with
  | .str name => do bare (← choose name cases)
  | .obj members =>
    match Json.sole? members with
    | none => .error (.wrongValue .map .singleKey)
    | some (name, w) => do payload (← choose name cases) scope w
  | v => .error (.wrongType v.found .variant)

end Decoder

end Kotlinize
