/-!
# Integers as text

Decimal notation of integers: digits without leading zeros, after a minus sign if negative.
-/

namespace Kotlinize

/-- The decimal digits of a natural number. -/
def digitsOf (n : Nat) : List Char :=
  Nat.toDigits 10 n

/-- An integer in decimal notation. -/
def integerText (n : Int) : List Char :=
  if n < 0 then '-' :: digitsOf n.natAbs else digitsOf n.natAbs

end Kotlinize
