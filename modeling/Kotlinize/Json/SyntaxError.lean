import Kotlinize.Text.Bytes

/-!
# Why a text is not JSON

A text that is not JSON is refused with a cause and the place where reading stopped. Lines count
from one; a column counts the bytes of UTF-8 since the last line break.
-/

namespace Kotlinize.Json

/-- **What is wrong with a JSON text.** -/
inductive SyntaxCause where
  | unclosedList
  | unclosedObject
  | unclosedString
  | noValue
  | noColon
  | noListComma
  | noObjectComma
  | badWord
  | badValue
  | badEscape
  | badNumber
  | numberRange
  | controlCharacter
  | badKey
  | loneSurrogate
  | trailingComma
  | trailingText
  | cutSurrogate
  | tooNested
deriving DecidableEq, Repr

/-- The wording of a cause. -/
def SyntaxCause.message : SyntaxCause → String
  | .unclosedList => "EOF while parsing a list"
  | .unclosedObject => "EOF while parsing an object"
  | .unclosedString => "EOF while parsing a string"
  | .noValue => "EOF while parsing a value"
  | .noColon => "expected `:`"
  | .noListComma => "expected `,` or `]`"
  | .noObjectComma => "expected `,` or `\x7d`"
  | .badWord => "expected ident"
  | .badValue => "expected value"
  | .badEscape => "invalid escape"
  | .badNumber => "invalid number"
  | .numberRange => "number out of range"
  | .controlCharacter =>
    "control character (\\u0000-\\u001F) found while parsing a string"
  | .badKey => "key must be a string"
  | .loneSurrogate => "lone leading surrogate in hex escape"
  | .trailingComma => "trailing comma"
  | .trailingText => "trailing characters"
  | .cutSurrogate => "unexpected end of hex escape"
  | .tooNested => "recursion limit exceeded"

/-- **A syntax error**: its cause and place. -/
structure SyntaxError where
  cause : SyntaxCause
  line : Nat
  column : Nat
deriving DecidableEq, Repr

/-- The wording of a syntax error. -/
def SyntaxError.message (e : SyntaxError) : String :=
  e.cause.message ++ " at line " ++ toString e.line ++ " column " ++ toString e.column

/-- The line and column after so many bytes of a text, counted on from a given line and column.
The place may lie inside a character. -/
def place : (offset : Nat) → (text : List Char) → (line column : Nat) → Nat × Nat
  | _, [], line, column => (line, column)
  | offset, c :: rest, line, column =>
    if offset < c.utf8Size then (line, column + offset)
    else if c = '\n' then place (offset - 1) rest (line + 1) 0
    else place (offset - c.utf8Size) rest line (column + c.utf8Size)

/-- **Where reading stopped**, as a cause and the number of bytes not yet read. -/
structure Stop where
  cause : SyntaxCause
  left : Nat
deriving DecidableEq, Repr

/-- Stop before the rest of the text. -/
def Stop.before (cause : SyntaxCause) (rest : List Char) : Stop :=
  ⟨cause, Text.bytes rest⟩

/-- Stop one byte into the rest of the text, or at its end if nothing is left. -/
def Stop.inside (cause : SyntaxCause) (rest : List Char) : Stop :=
  ⟨cause, Text.bytes rest - 1⟩

/-- The syntax error for a stop in a given text. -/
def Stop.locate (stop : Stop) (text : List Char) : SyntaxError :=
  let (line, column) := place (Text.bytes text - stop.left) text 1 0
  ⟨stop.cause, line, column⟩

end Kotlinize.Json
