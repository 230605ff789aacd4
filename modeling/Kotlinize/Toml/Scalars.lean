import Kotlinize.Toml.Scanner

/-!
# TOML numbers, truth values and dates

Digits of a number may be separated by single underscores. Of a date or a time only the form and
the ranges of its parts are looked at.
-/

namespace Kotlinize.Toml

open Scanner

/-- The number that digits spell in a base; underscores are passed over. -/
def numeral (base : Nat) (digits : List Char) : Nat :=
  (digits.filter (· ≠ '_')).foldl
    (fun n c => n * base +
      if c.isDigit then c.toNat - '0'.toNat
      else if 'a' ≤ c then c.toNat - 'a'.toNat + 10
      else c.toNat - 'A'.toNat + 10) 0

/-- Digits with single underscores between them. -/
def digits (isDigit : Char → Bool) : Scanner (List Char) := do
  let first ← char isDigit
  let rest ← many (char isDigit <|> (do exactly '_'; char isDigit))
  return first :: rest

/-- A sign, if any; whether it is a minus. -/
def sign : Scanner Bool := do
  match ← perhaps (char fun c => c = '+' || c = '-') with
  | some '-' => return true
  | _ => return false

/-- Decimal digits without a leading zero. -/
def decimalDigits : Scanner (List Char) := do
  match ← peek with
  | some '0' => return [← char (· = '0')]
  | _ => digits Char.isDigit

/-! ## Integers -/

/-- An integer, if it fits in 64 bits. -/
def integerInRange (n : Int) : Scanner Value :=
  if Int64.minValue.toInt ≤ n ∧ n ≤ Int64.maxValue.toInt then return .integer n else failure

/-- Digits in a base, after the given mark of the base. -/
def basedInteger (mark : Char) (base : Nat) (isDigit : Char → Bool) : Scanner Value := do
  word ['0', mark]
  let ds ← digits isDigit
  integerInRange (numeral base ds)

/-- An integer in decimal. -/
def decimalInteger : Scanner Value := do
  let negative ← sign
  let ds ← decimalDigits
  let n : Int := numeral 10 ds
  integerInRange (if negative then -n else n)

/-- **An integer.** A mark of a base decides for that base. -/
def integer : Scanner Value :=
  basedInteger 'x' 16 (fun c => c.isDigit || ('a' ≤ c && c ≤ 'f') || ('A' ≤ c && c ≤ 'F'))
    <|> basedInteger 'o' 8 (fun c => '0' ≤ c && c ≤ '7')
    <|> basedInteger 'b' 2 (fun c => c = '0' || c = '1')
    <|> decimalInteger

/-! ## Floating-point numbers -/

/-- The double nearest to `digits · 10 ^ exponent`; zero or infinity where the decimal lies far
outside the range of doubles. -/
def nearestDouble (digits : Nat) (exponent : Int) : Float :=
  let power := exponent + (Nat.toDigits 10 digits).length
  if digits = 0 ∨ power < -400 then 0
  else if 400 < power then 1 / 0
  else Float.ofScientific digits (decide (exponent < 0)) exponent.natAbs

/-- The fraction of a number, after its point. -/
def fraction : Scanner (List Char) := do
  exactly '.'
  digits Char.isDigit

/-- The exponent of a number. -/
def exponent : Scanner Int := do
  discard (char fun c => c = 'e' || c = 'E')
  let negative ← sign
  let n : Int := numeral 10 (← digits Char.isDigit)
  return if negative then -n else n

/-- A number with a fraction, an exponent or both. One that is too large is refused. -/
def decimalFloat : Scanner Value := do
  let negative ← sign
  let whole ← decimalDigits
  let fractionDigits ← perhaps fraction
  let power ← perhaps exponent
  if fractionDigits.isNone && power.isNone then failure
  let fractionDigits := fractionDigits.getD []
  let x := nearestDouble (numeral 10 (whole ++ fractionDigits))
    (power.getD 0 - fractionDigits.length)
  if negative then return .float (-x)
  else if x.isInf then failure
  else return .float x

/-- Infinity or no number. -/
def specialFloat : Scanner Value := do
  let negative ← sign
  let x : Float ← (do word "inf".toList; return 1 / 0) <|> (do word "nan".toList; return 0 / 0)
  return .float (if negative then -x else x)

/-- **A floating-point number.** -/
def float : Scanner Value :=
  decimalFloat <|> specialFloat

/-- **A truth value.** -/
def boolean : Scanner Value :=
  (do word "true".toList; return .boolean true)
    <|> (do word "false".toList; return .boolean false)

/-! ## Dates and times -/

/-- A number of exactly so many digits. -/
def fixedDigits (value : Nat) : Nat → Scanner Nat
  | 0 => pure value
  | n + 1 => do
    let d ← char Char.isDigit
    fixedDigits (value * 10 + (d.toNat - '0'.toNat)) n

/-- A number of two digits in a range. -/
def twoDigits (least most : Nat) : Scanner Nat := do
  let n ← fixedDigits 0 2
  if least ≤ n && n ≤ most then return n else failure

/-- The number of days of a month. -/
def daysIn (year month : Nat) : Nat :=
  if month = 2 then
    if year % 4 = 0 ∧ (year % 100 ≠ 0 ∨ year % 400 = 0) then 29 else 28
  else if month = 4 ∨ month = 6 ∨ month = 9 ∨ month = 11 then 30
  else 31

/-- A date. -/
def date : Scanner Unit := do
  let year ← fixedDigits 0 4
  exactly '-'
  let month ← twoDigits 1 12
  exactly '-'
  let day ← twoDigits 1 31
  if daysIn year month < day then failure

/-- A time of day. -/
def time : Scanner Unit := do
  discard (twoDigits 0 23)
  exactly ':'
  discard (twoDigits 0 59)
  exactly ':'
  discard (twoDigits 0 60)
  discard (perhaps (do exactly '.'; takeWhile1 Char.isDigit))

/-- The distance of a time zone. -/
def offset : Scanner Unit := do
  match ← char fun c => c = 'Z' || c = 'z' || c = '+' || c = '-' with
  | 'Z' => return
  | 'z' => return
  | _ =>
    discard (twoDigits 0 23)
    exactly ':'
    discard (twoDigits 0 59)

/-- **A date, a time or both.** -/
def dateTime : Scanner Value := do
  (do
    date
    discard (perhaps (do
      discard (char fun c => c = 'T' || c = 't' || c = ' ')
      time
      discard (perhaps offset)))) <|> time
  return .dateTime

end Kotlinize.Toml
