import Kotlinize.Json.Decoder
import Kotlinize.Literal

/-!
# The JSON form of literals

A literal is a variant named for its type, with its value as the data. The names are spelled
differently in the two places where literals occur, so the spelling is a parameter.
-/

namespace Kotlinize.Literal

/-- The variants of a literal, by name. -/
def cases (spell : String → String) : List (String × Payload Literal) := [
  (spell "null", .unit .null),
  (spell "bool", .value (Decoder.flag.map .bool)),
  (spell "int", .value (Decoder.int64.map .int)),
  (spell "long", .value (Decoder.int64.map .long)),
  (spell "float", .value (Decoder.float64.map .float)),
  (spell "double", .value (Decoder.float64.map .double)),
  (spell "char", .value (Decoder.character.map .char)),
  (spell "string", .value (Decoder.text.map .string))]

/-- **Reads a literal.** -/
def decoder (spell : String → String) : Decoder Literal :=
  .variant (cases spell)

/-- **The JSON form of a literal.** -/
def toJson (spell : String → String) : Literal → Json
  | .null => .str (spell "null")
  | .bool b => .obj [(spell "bool", .bool b)]
  | .int n => .obj [(spell "int", .int n.toInt)]
  | .long n => .obj [(spell "long", .int n.toInt)]
  | .float x => .obj [(spell "float", .ofFloat x)]
  | .double x => .obj [(spell "double", .ofFloat x)]
  | .char c => .obj [(spell "char", .str (String.ofList [c]))]
  | .string s => .obj [(spell "string", .str s)]

end Kotlinize.Literal
