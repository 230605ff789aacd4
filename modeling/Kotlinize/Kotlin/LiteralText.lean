import Kotlinize.Decimal.Layout
import Kotlinize.Literal

/-!
# Kotlin literals

Literals as Kotlin code writes them. Inside quotes the backslash, the quote itself and the control
characters are escaped, and in strings also the dollar sign, which would begin a template.
-/

namespace Kotlinize.Literal

/-- **Kotlin floating-point numbers**: positional from `1e-4` up to `1e16`, no plus sign before an
exponent, and of two equally near decimals the larger one. -/
def kotlinNumbers : Layout where
  positional power := -4 ≤ power && power < 16
  plus := false
  tie := .up

/-- Whether a character is a control character. -/
def isControl (c : Char) : Bool :=
  c.toNat < 0x20 || (0x7F ≤ c.toNat && c.toNat < 0xA0)

/-- The upper-case hexadecimal digit with the given value. -/
def hexDigit (n : Nat) : Char :=
  (Nat.digitChar (n % 16)).toUpper

/-- The escape of a character by its code, in four hexadecimal digits. -/
def unicodeEscape (c : Char) : List Char :=
  let n := c.toNat
  ['\\', 'u', hexDigit (n / 4096), hexDigit (n / 256), hexDigit (n / 16), hexDigit n]

/-- One character between the given quotes. -/
def escapedIn (quote c : Char) : List Char :=
  if c = '\\' then ['\\', '\\']
  else if c = '\n' then ['\\', 'n']
  else if c = '\r' then ['\\', 'r']
  else if c = '\t' then ['\\', 't']
  else if c = '\x08' then ['\\', 'b']
  else if c = '$' ∧ quote = '"' then ['\\', '$']
  else if c = quote then ['\\', c]
  else if isControl c then unicodeEscape c
  else [c]

/-- Characters between quotes. -/
def quotedIn (quote : Char) (cs : List Char) : String :=
  String.ofList (quote :: cs.flatMap (escapedIn quote) ++ [quote])

/-- A floating-point number with the suffix of its type; the numbers that have no digits are
constants of the type's class. -/
def floatText (x : Float) (className suffix : String) : String :=
  if x.isNaN then className ++ ".NaN"
  else if x.isInf then
    className ++ (if x > 0 then ".POSITIVE_INFINITY" else ".NEGATIVE_INFINITY")
  else kotlinNumbers.text x ++ suffix

/-- **A literal as Kotlin code.** -/
def text : Literal → String
  | .null => "null"
  | .bool true => "true"
  | .bool false => "false"
  | .int n => String.ofList (integerText n.toInt)
  | .long n => String.ofList (integerText n.toInt) ++ "L"
  | .float x => floatText x "Float" "f"
  | .double x => floatText x "Double" ""
  | .char c => quotedIn '\x27' [c]
  | .string s => quotedIn '"' s.toList

end Kotlinize.Literal
