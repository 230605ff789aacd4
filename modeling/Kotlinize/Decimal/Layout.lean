import Kotlinize.Decimal.Integer
import Kotlinize.Decimal.Shortest

/-!
# Laying out a decimal as text

The digits of a double are the shortest that read back; where the point goes and when an exponent
is written differs between formats. A `Layout` holds those decisions, and each format that writes
doubles names its own layout next to the text it writes.
-/

namespace Kotlinize

/-- **How a format lays out a finite double.** -/
structure Layout where
  /-- Whether a number whose leading digit stands at this power of ten is written positionally. -/
  positional : Int → Bool
  /-- Whether a positive exponent carries a plus sign. -/
  plus : Bool
  /-- The choice between equally near decimals. -/
  tie : Tie

namespace Layout

/-- Positional notation, always with a point and at least one digit on both sides of it. The
point stands after `point` digits. -/
def positionalText (digits : List Char) (point : Int) : List Char :=
  if point ≤ 0 then '0' :: '.' :: List.replicate (-point).toNat '0' ++ digits
  else if digits.length ≤ point.toNat then
    digits ++ List.replicate (point.toNat - digits.length) '0' ++ ['.', '0']
  else digits.take point.toNat ++ '.' :: digits.drop point.toNat

/-- Scientific notation: one digit, the others after a point if there are any, and the exponent. -/
def scientificText (layout : Layout) (digits : List Char) (power : Int) : List Char :=
  let mantissa := match digits with
    | [] => ['0']
    | [d] => [d]
    | d :: rest => d :: '.' :: rest
  let sign := if power < 0 then ['-'] else if layout.plus then ['+'] else []
  mantissa ++ 'e' :: sign ++ digitsOf power.natAbs

/-- The text of a decimal without sign. -/
def decimalText (layout : Layout) (d : Decimal) : List Char :=
  let digits := digitsOf d.digits
  let point := d.exponent + digits.length
  if d.digits = 0 || layout.positional (point - 1) then positionalText digits point
  else layout.scientificText digits (point - 1)

/-- The sign bit of a double. -/
def signBit : Nat := 0x8000000000000000

/-- **The text of a finite double**: its shortest digits in this layout, with a minus sign if the
sign bit is set, also for zero. -/
def text (layout : Layout) (x : Float) : String :=
  let bits := x.toBits
  let digits := layout.decimalText (Decimal.shortest layout.tie bits)
  String.ofList (if signBit ≤ bits.toNat then '-' :: digits else digits)

end Layout

end Kotlinize
