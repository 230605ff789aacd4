import Kotlinize.Config
import Kotlinize.Toml.Parser

/-!
# Settings from TOML

Settings are read from the root table of a TOML document. Keys that are not settings are ignored.
A setting of the wrong type is reported with the line that it stands on and a row of marks under
it.
-/

namespace Kotlinize.Config

/-- **Why settings cannot be read.** -/
inductive TomlError where
  /-- The text is no TOML document. -/
  | notToml
  /-- A setting has the wrong type: the text, the place, and what is found there. -/
  | wrongType (text : String) (span : Toml.Span) (found : String)

/-- **Numbers in messages about settings** are always written positionally. -/
def numberLayout : Layout where
  positional _ := true
  plus := false
  tie := .up

/-- A floating-point number in a message. -/
def floatText (x : Float) : String :=
  if x.isNaN then "NaN"
  else if x.isInf then (if x > 0 then "inf" else "-inf")
  else numberLayout.text x

/-- What a value is, in words. -/
def describe : Toml.Value → String
  | .string s => (Found.text s).message
  | .integer n => (Found.int n).message
  | .float x => "floating point " ++ backquoted (floatText x)
  | .boolean b => (Found.bool b).message
  | .array _ => Found.sequence.message
  | .dateTime => Found.map.message
  | .inlineTable _ => Found.map.message

/-- The place of an array of tables: from the first of them to the last. -/
def tablesSpan (last : Toml.Table) (before : List Toml.Table) : Option Toml.Span := do
  let first ← (before.getLastD last).span
  return ⟨first.start, (← last.span).stop⟩

/-- A truth value among the settings; otherwise its place and what stands there. -/
def flag (key : Toml.Key) : Toml.Entry → Except (Toml.Span × String) Bool
  | .value (.boolean b) _ => .ok b
  | .value v span => .error (span, describe v)
  | .table t => .error (t.span.getD key.span, Found.map.message)
  | .tables last before =>
    .error ((tablesSpan last before).getD key.span, Found.sequence.message)

/-- **Reads settings from TOML text**; a setting that is absent has its default. -/
def ofToml (text : String) : Except TomlError Config :=
  match Toml.parse text with
  | none => .error .notToml
  | some root =>
    match root.find? fullyQualifiedKey with
    | none => .ok {}
    | some (key, entry) =>
      match flag key entry with
      | .ok b => .ok ⟨b⟩
      | .error (span, found) => .error (.wrongType text span found)

/-- The number of characters that begin before a byte offset. -/
def columnAt : Nat → List Char → Nat
  | 0, _ => 0
  | _, [] => 0
  | offset, c :: rest => columnAt (offset - c.utf8Size) rest + 1

/-- The line of a text that a byte offset falls in, as its number, its characters and the column
of the offset in characters, all counted from zero. -/
def lineAt : (offset : Nat) → (lines : List (List Char)) → Nat × List Char × Nat
  | _, [] => (0, [], 0)
  | offset, line :: rest =>
    let size := Text.bytes line
    if offset ≤ size ∨ rest.isEmpty then (0, line, columnAt offset line)
    else
      let (number, found, column) := lineAt (offset - size - 1) rest
      (number + 1, found, column)

/-- The number of marks under a place: one for each of its bytes, at least one, and none past the
end of the line, whose room is its bytes less the column where the marks begin. -/
def markCount (span : Toml.Span) (content : List Char) (column : Nat) : Nat :=
  max 1 (min (span.stop - span.start) (Text.bytes content - column))

/-- **The wording of an error in settings**, where there is one of our own. -/
def TomlError.message? : TomlError → Option String
  | .notToml => none
  | .wrongType text span found =>
    let (line, content, column) := lineAt span.start (text.toList.splitOn '\n')
    let number := toString (line + 1)
    let gutter := String.ofList (List.replicate (number.length + 1) ' ') ++ "|"
    let marks := List.replicate (column + 1) ' '
      ++ List.replicate (markCount span content column) '^'
    some ("invalid converter config: TOML parse error at line " ++ number ++ ", column "
      ++ toString (column + 1) ++ "\n" ++ gutter ++ "\n" ++ number ++ " | "
      ++ String.ofList content ++ "\n" ++ gutter ++ String.ofList marks ++ "\n"
      ++ "invalid type: " ++ found ++ ", expected " ++ Wanted.flag.message ++ "\n")

end Kotlinize.Config
