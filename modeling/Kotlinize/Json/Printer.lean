import Kotlinize.Decimal.Layout
import Kotlinize.Json.Basic

/-!
# Compact JSON text

The text of a JSON value without any blanks. Strings are escaped only where JSON demands it: the
quote, the backslash and the control characters; everything else stands for itself.
-/

namespace Kotlinize.Json

/-- **JSON numbers**: positional from `1e-5` up to `1e16`, a plus sign before a positive exponent,
and of two equally near decimals the even one. -/
def numberLayout : Layout where
  positional power := -5 ≤ power && power < 16
  plus := true
  tie := .even

/-- One character of a JSON string. -/
def escapedChar (c : Char) : List Char :=
  if c = '"' then ['\\', '"']
  else if c = '\\' then ['\\', '\\']
  else if c = '\n' then ['\\', 'n']
  else if c = '\r' then ['\\', 'r']
  else if c = '\t' then ['\\', 't']
  else if c = '\x08' then ['\\', 'b']
  else if c = '\x0c' then ['\\', 'f']
  else if c.toNat < 32 then
    ['\\', 'u', '0', '0', Nat.digitChar (c.toNat / 16), Nat.digitChar (c.toNat % 16)]
  else [c]

/-- A string between quotes. -/
def stringText (s : String) : List Char :=
  '"' :: s.toList.flatMap escapedChar ++ ['"']

mutual

/-- The characters of the compact text of a value. -/
def text : Json → List Char
  | .null => "null".toList
  | .bool true => "true".toList
  | .bool false => "false".toList
  | .int n => integerText n
  | .float x => if x.isFinite then (numberLayout.text x).toList else "null".toList
  | .str s => stringText s
  | .arr elements => '[' :: elementsText elements ++ [']']
  | .obj members => '\x7b' :: membersText members ++ ['\x7d']

/-- The elements of an array, separated by commas. -/
def elementsText : List Json → List Char
  | [] => []
  | [v] => v.text
  | v :: w :: rest => v.text ++ ',' :: elementsText (w :: rest)

/-- The members of an object, separated by commas. -/
def membersText : List (String × Json) → List Char
  | [] => []
  | [(k, v)] => stringText k ++ ':' :: v.text
  | (k, v) :: m :: rest => stringText k ++ ':' :: v.text ++ ',' :: membersText (m :: rest)

end

/-- **The compact text of a JSON value.** -/
def compact (v : Json) : String :=
  String.ofList v.text

end Kotlinize.Json
