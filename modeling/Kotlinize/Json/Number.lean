import Kotlinize.Json.Basic
import Kotlinize.Json.SyntaxError

/-!
# Reading JSON numbers

A number without point and exponent is an integer if it fits in 64 bits, unsigned when positive
and signed when negative; `-0` and everything else is a double. A double is built from the digits
that fit in an unsigned 64-bit significand, scaled once by a power of ten: the digits beyond those
are not looked at, and the result is the rounded product or quotient of two doubles, not always
the double nearest to the written decimal.
-/

namespace Kotlinize.Json

/-- The largest significand that is kept. -/
def maxSignificand : Nat := UInt64.size - 1

/-- The largest exponent that is read. -/
def maxExponent : Nat := 0x7fffffff

/-- The magnitude of the least integer. -/
def minMagnitude : Nat := 0x8000000000000000

/-- The value of a decimal digit. -/
def digitValue (c : Char) : Nat :=
  c.toNat - '0'.toNat

/-- Appends digits to a significand while it stays in range. The second result counts the digits
that were left out. -/
def appendDigits : Nat → List Char → Nat × Nat
  | s, [] => (s, 0)
  | s, d :: rest =>
    if s * 10 + digitValue d ≤ maxSignificand then appendDigits (s * 10 + digitValue d) rest
    else (s, rest.length + 1)

/-- The double nearest to a power of ten. -/
def powerOfTen (n : Nat) : Float :=
  Float.ofScientific 1 false n

/-- **Scaling by a power of ten**: one multiplication or division by a power up to `10 ^ 308`,
after dividing as often as needed when the exponent lies below that range. `none` if the result
would be infinite. -/
def scale (x : Float) (exponent : Int) : Option Float :=
  if exponent < -308 then
    if x == 0 then some x else scale (x / powerOfTen 308) (exponent + 308)
  else if exponent < 0 then some (x / powerOfTen (-exponent).toNat)
  else if exponent ≤ 308 then
    let y := x * powerOfTen exponent.toNat
    if y.isInf then none else some y
  else if x == 0 then some x
  else none
termination_by (-exponent).toNat

/-- The double with a given sign, significand and exponent, read up to `rest`. -/
def double (negative : Bool) (significand : Nat) (exponent : Int) (rest : List Char) :
    Except Stop (Json × List Char) :=
  match scale significand.toUInt64.toFloat exponent with
  | none => .error (.before .numberRange rest)
  | some x => .ok (.float (if negative then -x else x), rest)

/-- The digits of an exponent after the first; `none` once the exponent passes 31 bits, with the
text from there on. -/
def exponentDigits : Nat → List Char → Option Nat × List Char
  | e, [] => (some e, [])
  | e, c :: rest =>
    if c.isDigit then
      if e * 10 + digitValue c ≤ maxExponent then exponentDigits (e * 10 + digitValue c) rest
      else (none, rest)
    else (some e, c :: rest)

/-- The number whose exponent, after the letter, stands at the head of the text. -/
def exponentPart (negative : Bool) (significand : Nat) (start : Int) (cs : List Char) :
    Except Stop (Json × List Char) :=
  let (down, digits) := match cs with
    | '+' :: rest => (false, rest)
    | '-' :: rest => (true, rest)
    | rest => (false, rest)
  match digits with
  | [] => .error (.before .noValue [])
  | d :: rest =>
    if d.isDigit then
      match exponentDigits (digitValue d) rest with
      | (some e, rest) => double negative significand (if down then start - e else start + e) rest
      | (none, rest) =>
        if significand ≠ 0 ∧ !down then .error (.before .numberRange rest)
        else .ok (.float (if negative then -0.0 else 0.0), rest.dropWhile Char.isDigit)
    else .error (.inside .badNumber digits)

/-- The number whose exponent, if any, stands at the head of the text. -/
def optionalExponent (negative : Bool) (significand : Nat) (exponent : Int) (cs : List Char) :
    Except Stop (Json × List Char) :=
  match cs with
  | 'e' :: rest => exponentPart negative significand exponent rest
  | 'E' :: rest => exponentPart negative significand exponent rest
  | rest => double negative significand exponent rest

/-- The number whose fraction, after the point, stands at the head of the text. -/
def fractionPart (negative : Bool) (significand : Nat) (skipped : Nat) (cs : List Char) :
    Except Stop (Json × List Char) :=
  let digits := cs.takeWhile Char.isDigit
  let rest := cs.dropWhile Char.isDigit
  if digits.isEmpty then
    .error (.inside (if rest.isEmpty then .noValue else .badNumber) rest)
  else
    let (s, left) := appendDigits significand digits
    optionalExponent negative s (skipped - (digits.length - left : Nat)) rest

/-- An integer, or a double if it does not fit. -/
def wholeNumber (negative : Bool) (significand : Nat) : Json :=
  if !negative then .int significand
  else if significand = 0 ∨ minMagnitude < significand then .float (-significand.toUInt64.toFloat)
  else .int (-significand)

/-- The number whose digits, from the first on, have been read; `rest` follows them. -/
def afterDigits (negative : Bool) (digits rest : List Char) : Except Stop (Json × List Char) :=
  let (s, skipped) := appendDigits 0 digits
  match rest with
  | '.' :: fraction => fractionPart negative s skipped fraction
  | 'e' :: _ => optionalExponent negative s skipped rest
  | 'E' :: _ => optionalExponent negative s skipped rest
  | _ =>
    if skipped = 0 then .ok (wholeNumber negative s, rest)
    else double negative s skipped rest

/-- **A number**, read after its minus sign if it has one. -/
def number (negative : Bool) (cs : List Char) : Except Stop (Json × List Char) :=
  match cs with
  | [] => .error (.before .noValue [])
  | '0' :: rest =>
    match rest with
    | d :: _ =>
      if d.isDigit then .error (.inside .badNumber rest) else afterDigits negative ['0'] rest
    | [] => afterDigits negative ['0'] []
  | c :: _ =>
    if c.isDigit then afterDigits negative (cs.takeWhile Char.isDigit) (cs.dropWhile Char.isDigit)
    else .error (.inside .badNumber cs)

end Kotlinize.Json
