import Kotlinize.Json.Printer
import Kotlinize.Text.Quoted

/-!
# Why a JSON value does not fit

A JSON value can be well-formed and still not be what a reader wants. A `Mismatch` is the cause,
with what was found and what was wanted; `Mismatch.message` is its wording.
-/

namespace Kotlinize

/-- **What a reader found.** -/
inductive Found where
  | null
  | bool (value : Bool)
  | int (value : Int)
  | float (value : Float)
  | text (value : String)
  | sequence
  | map
  /-- The name of a variant, without the data that the variant has. -/
  | bareVariant

/-- **What a reader wanted.** -/
inductive Wanted where
  | text
  | flag
  | int64
  | float64
  | character
  | sequence
  | unit
  /-- A record, given by its title. -/
  | record (title : String)
  /-- A record that names its own kind. -/
  | tagged (name : String)
  /-- The name of a kind. -/
  | kind
  /-- The number of a kind, below the given bound. -/
  | kindNumber (bound : Nat)
  /-- A variant, as its name or as an object from its name to its data. -/
  | variant
  /-- An object with a single key. -/
  | singleKey
  /-- A variant together with its value. -/
  | variantValue
  /-- A variant together with its fields. -/
  | variantFields
  /-- All the fields of a record. -/
  | allFields (title : String) (arity : Nat)
  /-- No more elements than the given number. -/
  | elements (count : Nat)
  /-- Fewer elements than there are. -/
  | fewerElements

/-- **Why a JSON value does not fit.** -/
inductive Mismatch where
  /-- A field that has no default is absent. -/
  | missing (field : String)
  /-- The value is of another kind. -/
  | wrongType (found : Found) (wanted : Wanted)
  /-- The value is of the right kind but not allowed here. -/
  | wrongValue (found : Found) (wanted : Wanted)
  /-- The array has another number of elements. -/
  | wrongLength (length : Nat) (wanted : Wanted)
  /-- There is no such variant among the given ones. -/
  | unknownVariant (name : String) (variants : List String)
  /-- The value nests deeper than the reader was told to look. -/
  | tooDeep

namespace Json

/-- A value as a mismatch reports it. -/
def found : Json → Found
  | .null => .null
  | .bool b => .bool b
  | .int n => .int n
  | .float x => .float x
  | .str s => .text s
  | .arr _ => .sequence
  | .obj _ => .map

end Json

/-- Text between backquotes. -/
def backquoted (s : String) : String :=
  "`" ++ s ++ "`"

/-- The wording of what was found. -/
def Found.message : Found → String
  | .null => "null"
  | .bool b => "boolean " ++ backquoted (if b then "true" else "false")
  | .int n => "integer " ++ backquoted (String.ofList (integerText n))
  | .float x => "floating point " ++ backquoted (Json.numberLayout.text x)
  | .text s => "string " ++ Text.quoted s
  | .sequence => "sequence"
  | .map => "map"
  | .bareVariant => "unit variant"

/-- A number of elements in words. -/
def elementCount (n : Nat) : String :=
  if n = 1 then "1 element" else toString n ++ " elements"

/-- The wording of what was wanted. -/
def Wanted.message : Wanted → String
  | .text => "a string"
  | .flag => "a boolean"
  | .int64 => "i64"
  | .float64 => "f64"
  | .character => "a character"
  | .sequence => "a sequence"
  | .unit => "unit"
  | .record title => title
  | .tagged name => "internally tagged enum " ++ name
  | .kind => "variant identifier"
  | .kindNumber bound => "variant index 0 <= i < " ++ toString bound
  | .variant => "string or map"
  | .singleKey => "map with a single key"
  | .variantValue => "newtype variant"
  | .variantFields => "struct variant"
  | .allFields title arity => title ++ " with " ++ elementCount arity
  | .elements count => elementCount count ++ " in sequence"
  | .fewerElements => "fewer elements in array"

/-- The wording of the variants there are. -/
def variantChoice : List String → String
  | [] => "there are no variants"
  | [a] => "expected " ++ backquoted a
  | [a, b] => "expected " ++ backquoted a ++ " or " ++ backquoted b
  | names => "expected one of " ++ ", ".intercalate (names.map backquoted)

/-- **The wording of a mismatch.** -/
def Mismatch.message : Mismatch → String
  | .missing field => "missing field " ++ backquoted field
  | .wrongType found wanted => "invalid type: " ++ found.message ++ ", expected " ++ wanted.message
  | .wrongValue found wanted =>
    "invalid value: " ++ found.message ++ ", expected " ++ wanted.message
  | .wrongLength length wanted =>
    "invalid length " ++ toString length ++ ", expected " ++ wanted.message
  | .unknownVariant name variants =>
    "unknown variant " ++ backquoted name ++ ", " ++ variantChoice variants
  | .tooDeep => "nested too deeply"

end Kotlinize
