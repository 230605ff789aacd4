/-!
# TOML documents

A document is a table, built up from statements one after another: a header opens a table or adds
one to an array of tables, and a pair of a dotted key and a value adds an entry to the table that
is open. Nothing may be defined twice, so every step can fail.
-/

namespace Kotlinize.Toml

/-- **A place in a text**, in bytes, from its start up to but without its stop. -/
structure Span where
  start : Nat
  stop : Nat
deriving DecidableEq, Repr, Inhabited

/-- **One segment of a key**, with the place where it is written. -/
structure Key where
  name : String
  span : Span
deriving DecidableEq, Repr, Inhabited

mutual

/-- **A value.** -/
inductive Value where
  | string (value : String)
  | integer (value : Int)
  | float (value : Float)
  | boolean (value : Bool)
  /-- A date, a time or both. -/
  | dateTime
  | array (elements : List Value)
  | inlineTable (table : Table)

/-- **What a key of a table leads to.** -/
inductive Entry where
  | value (value : Value) (span : Span)
  | table (table : Table)
  /-- An array of tables, the last one first. -/
  | tables (last : Table) (before : List Table)

/-- **A table.** -/
structure Table where
  /-- The entries, each under the key that first led to it. -/
  entries : List (Key × Entry)
  /-- Whether the table exists only because something inside it was defined. -/
  implicit : Bool
  /-- Whether the table was made by a dotted key of a pair. -/
  dotted : Bool
  /-- The place of the header, up to the end of the last value under it. -/
  span : Option Span

end

instance : Inhabited Value := ⟨.dateTime⟩
instance : Inhabited Table := ⟨⟨[], false, false, none⟩⟩
instance : Inhabited Entry := ⟨.table default⟩

namespace Table

/-- The table of a document before its first statement. -/
def empty : Table :=
  ⟨[], false, false, none⟩

/-- A table that something inside it brings into being. -/
def implied (dotted : Bool) : Table :=
  ⟨[], true, dotted, none⟩

/-- The entry of a name, with the key it stands under. -/
def find? (t : Table) (name : String) : Option (Key × Entry) :=
  t.entries.find? fun e => e.1.name = name

/-- The table with an entry put in the place of the one of that name, or added. -/
def put (t : Table) (key : Key) (entry : Entry) : Table :=
  if t.entries.any fun e => e.1.name = key.name then
    { t with entries := t.entries.map fun e =>
        if e.1.name = key.name then (e.1, entry) else e }
  else { t with entries := t.entries ++ [(key, entry)] }

/-- The table without the entry of a name. -/
def erase (t : Table) (name : String) : Table :=
  { t with entries := t.entries.filter fun e => e.1.name ≠ name }

/-- **Changes the table at a path.** Tables that are missing on the way come into being, and an
array of tables stands for its last one. The key of a pair may lead only through tables that exist
for its like. -/
def update (dotted : Bool) (change : Table → Option Table) : List Key → Table → Option Table
  | [], t => change t
  | key :: rest, t => do
    match (t.find? key.name).map Prod.snd with
    | none => return t.put key (.table (← update dotted change rest (implied dotted)))
    | some (.value _ _) => none
    | some (.tables last before) =>
      return t.put key (.tables (← update dotted change rest last) before)
    | some (.table inner) =>
      if dotted && !inner.implicit then none
      else return t.put key (.table (← update dotted change rest inner))

/-- Adds a value under a key that is not yet in use, at the end of a path of keys. A table that
stands at that end must be there for dotted keys, and the open table itself must not. -/
def insertLeaf (path : List Key) (key : Key) (value : Value) (span : Span) (t : Table) :
    Option Table :=
  if t.dotted == path.isEmpty || (t.find? key.name).isSome then none
  else some (t.put key (.value value span))

/-- Adds a pair of a dotted key and a value. -/
def insertPair (path : List Key) (key : Key) (value : Value) (span : Span) (t : Table) :
    Option Table :=
  update true (insertLeaf path key value span) path t

/-- The place of a table once the given value stands in it. -/
def extend (t : Table) (value : Span) : Table :=
  { t with span := t.span.map fun s => ⟨s.start, value.stop⟩ }

/-- Opens the table of a header in its parent: a new one, or one that was only implied. -/
def openTable (key : Key) (span : Span) (parent : Table) : Option Table :=
  match parent.find? key.name with
  | none => some (parent.put key (.table { empty with span := some span }))
  | some (_, .table inner) =>
    if inner.implicit && !inner.dotted then
      let opened := { inner with implicit := false, span := some span }
      some ((parent.erase key.name).put key (.table opened))
    else none
  | some _ => none

/-- Adds a table to an array of tables in its parent. -/
def pushTable (key : Key) (span : Span) (parent : Table) : Option Table :=
  let fresh := { empty with span := some span }
  match parent.find? key.name with
  | none => some (parent.put key (.tables fresh []))
  | some (_, .tables last before) => some (parent.put key (.tables fresh (last :: before)))
  | some _ => none

end Table

/-- **A statement of a document.** A path of keys is given without its last key. -/
inductive Statement where
  /-- A table opens, as in `[a.b]`. -/
  | header (path : List Key) (key : Key) (span : Span)
  /-- A table joins an array of tables, as in `[[a.b]]`. -/
  | arrayHeader (path : List Key) (key : Key) (span : Span)
  /-- A value is set, as in `a.b = value`. -/
  | pair (path : List Key) (key : Key) (value : Value) (span : Span)

/-- **A document while it is read**: the whole table and the path of the one that is open. -/
structure Document where
  root : Table
  current : List Key

namespace Document

/-- The document before its first statement. -/
def empty : Document :=
  ⟨.empty, []⟩

/-- The document after one more statement, if that is allowed. -/
def step (d : Document) : Statement → Option Document
  | .header path key span => do
    return ⟨← d.root.update false (Table.openTable key span) path, path ++ [key]⟩
  | .arrayHeader path key span => do
    return ⟨← d.root.update false (Table.pushTable key span) path, path ++ [key]⟩
  | .pair path key value span => do
    let add (t : Table) := (t.extend span).insertPair path key value span
    return { d with root := ← d.root.update false add d.current }

/-- **The table that statements define**, if nothing is defined twice. -/
def assemble (statements : List Statement) : Option Table :=
  (statements.foldlM step empty).map Document.root

end Document

end Kotlinize.Toml
