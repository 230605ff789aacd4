import Kotlinize.Toml.Scalars
import Kotlinize.Toml.Strings

/-!
# Reading TOML text

Values, statements and whole documents. Arrays and inline tables may stand inside one another at
most `maxNesting` deep, and the reader of a value is a recursion on the depth that is still
allowed.
-/

namespace Kotlinize.Toml

open Scanner

/-- A value that contains no others. -/
def scalar : Scanner Value := do
  match ← peek with
  | some '"' => return .string (← string)
  | some '\x27' => return .string (← string)
  | some 't' => boolean
  | some 'f' => boolean
  | some _ => dateTime <|> float <|> integer
  | none => failure

/-- The elements of an array and its closing bracket. -/
def arrayRest (value : Scanner Value) : Scanner Value := do
  let element := do
    gap
    let v ← value
    gap
    return v
  let elements ← perhaps (separated element ',')
  if elements.isSome then discard (perhaps (exactly ','))
  gap
  exactly ']'
  return .array (elements.getD [])

/-- A pair of an inline table, with the place of its value. -/
def inlinePair (value : Scanner Value) : Scanner (List Key × Key × Value × Span) := do
  let (path, last) ← key
  exactly '='
  blanks
  let (v, span) ← located value
  blanks
  return (path, last, v, span)

/-- The pairs of an inline table and its closing brace. -/
def inlineTableRest (value : Scanner Value) : Scanner Value := do
  let pairs ← perhaps (separated (inlinePair value) ',')
  blanks
  exactly '\x7d'
  let table := (pairs.getD []).foldlM
    (fun t (path, last, v, span) => Table.insertPair path last v span t) Table.empty
  match table with
  | some t => return .inlineTable t
  | none => failure

/-- **A value**, with so many levels of arrays and inline tables. -/
def value : Nat → Scanner Value
  | 0 => scalar
  | n + 1 => do
    match ← peek with
    | some '[' => do
      exactly '['
      arrayRest (value n)
    | some '\x7b' => do
      exactly '\x7b'
      inlineTableRest (value n)
    | _ => scalar

/-- How many arrays and inline tables may stand inside one another. -/
def maxNesting : Nat := 79

/-- A header of an array of tables. -/
def arrayHeader : Scanner Statement := do
  let ((path, last), span) ← located (do
    word ['[', '[']
    let k ← key
    word [']', ']']
    return k)
  lineEnd
  return .arrayHeader path last span

/-- A header of a table. -/
def header : Scanner Statement := do
  let ((path, last), span) ← located (do
    exactly '['
    let k ← key
    exactly ']'
    return k)
  lineEnd
  return .header path last span

/-- A pair of a key and a value. -/
def pair : Scanner Statement := do
  let (path, last) ← key
  exactly '='
  blanks
  let (v, span) ← located (value maxNesting)
  lineEnd
  return .pair path last v span

/-- One line of a document: a statement, or nothing. -/
def line : Scanner (Option Statement) := do
  blanks
  match ← peek with
  | some '#' => do
    comment
    lineBreak <|> atEnd
    return none
  | some '\n' => do
    lineBreak
    return none
  | some '\r' => do
    lineBreak
    return none
  | some '[' => do return some (← arrayHeader <|> header)
  | some _ => do return some (← pair)
  | none => failure

/-- The statements of a whole document. -/
def statements : Scanner (List Statement) := do
  discard (perhaps (exactly '\uFEFF'))
  let lines ← many line
  blanks
  atEnd
  return lines.filterMap id

/-- **Reads a text as a TOML document.** -/
def parse (text : String) : Option Table := do
  let (all, _) ← statements ⟨text.toList, 0⟩
  Document.assemble all

end Kotlinize.Toml
