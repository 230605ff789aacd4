/-!
# The shortest decimal of a double

A double stands for one real number, and a whole interval of reals rounds to it. Its **shortest
decimal** is the one with the fewest digits in that interval, and of those with equally few the
nearest. Two decimals can be equally near; which one is then taken is the writer's choice (`Tie`).

The search is exact: a finite double is `m · 2 ^ q`, the ends of its interval are multiples of
`2 ^ (q - 2)`, and every comparison is one between natural numbers.
-/

namespace Kotlinize

/-- **A decimal**: `digits · 10 ^ exponent`. -/
structure Decimal where
  /-- The digits, read as a natural number. -/
  digits : Nat
  /-- The power of ten that the last digit stands at. -/
  exponent : Int
deriving DecidableEq, Repr

/-- **Which of two equally near decimals is taken.** -/
inductive Tie where
  /-- The larger one. -/
  | up
  /-- The one whose last digit is even. -/
  | even
deriving DecidableEq, Repr

/-- **A finite magnitude**: `mantissa · 2 ^ exponent`. -/
structure Magnitude where
  /-- The integer significand, below `2 ^ 53`. -/
  mantissa : Nat
  /-- The power of two that its last bit stands at. -/
  exponent : Int
  /-- Whether the double just below is only half a step away, as it is below a power of two. -/
  narrowBelow : Bool
deriving DecidableEq, Repr

namespace Magnitude

/-- The bit above the fraction of a double, which is set but not stored in all but the smallest. -/
def hiddenBit : Nat := 0x10000000000000

/-- The magnitude that the bits of a finite double spell; the sign bit is ignored. -/
def ofBits (bits : UInt64) : Magnitude :=
  let fraction : Nat := bits.toNat % hiddenBit
  let biased : Nat := bits.toNat / hiddenBit % 2048
  if biased = 0 then ⟨fraction, -1074, false⟩
  else ⟨hiddenBit + fraction, (biased : Int) - 1075, fraction = 0 && biased ≠ 1⟩

/-- The value in units of `10 ^ e / 4`, as a numerator (for a given significand, in quarters) and
a denominator. -/
def scaled (x : Magnitude) (e : Int) (quarters : Nat) : Nat × Nat :=
  let twos := x.exponent - 2
  (quarters * Nat.pow 2 twos.toNat * Nat.pow 10 (-e).toNat,
    Nat.pow 2 (-twos).toNat * Nat.pow 10 e.toNat)

/-- The power of ten of the leading digit. The first guess from the position of the leading bit
is off by at most one. -/
def leadingPower (x : Magnitude) : Int :=
  let guess := (x.mantissa.log2 + x.exponent) * 30103 / 100000
  let atLeast (e : Int) : Bool :=
    let (num, den) := x.scaled e (4 * x.mantissa)
    decide (den ≤ num)
  if !atLeast guess then guess - 1
  else if atLeast (guess + 1) then guess + 1
  else guess

/-- The decimal on the grid of `10 ^ e` that rounds to this magnitude, nearest to it, if there is
one: the two neighbours on the grid are the only candidates. -/
def onGrid (x : Magnitude) (tie : Tie) (e : Int) : Option Decimal :=
  let (num, den) := x.scaled e (4 * x.mantissa)
  let low := (x.scaled e (4 * x.mantissa - if x.narrowBelow then 1 else 2)).1
  let high := (x.scaled e (4 * x.mantissa + 2)).1
  let closed := x.mantissa % 2 = 0
  let inside (d : Nat) : Bool :=
    if closed then decide (low ≤ d * den ∧ d * den ≤ high)
    else decide (low < d * den ∧ d * den < high)
  let below := num / den
  let above := below + 1
  match inside below, inside above with
  | false, false => none
  | true, false => some ⟨below, e⟩
  | false, true => some ⟨above, e⟩
  | true, true =>
    let toBelow := num - below * den
    let toAbove := above * den - num
    if toBelow < toAbove then some ⟨below, e⟩
    else if toAbove < toBelow then some ⟨above, e⟩
    else match tie with
      | .up => some ⟨above, e⟩
      | .even => some ⟨if below % 2 = 0 then below else above, e⟩

end Magnitude

/-- The same decimal without trailing zeros. The second argument bounds the zeros that are taken
away. -/
def Decimal.trimmed (d : Decimal) : Nat → Decimal
  | 0 => d
  | n + 1 =>
    if d.digits ≠ 0 ∧ d.digits % 10 = 0 then Decimal.trimmed ⟨d.digits / 10, d.exponent + 1⟩ n
    else d

/-- **The shortest decimal of a finite double**, sign aside. Seventeen digits always suffice. -/
def Decimal.shortest (tie : Tie) (bits : UInt64) : Decimal :=
  let x := Magnitude.ofBits bits
  if x.mantissa = 0 then ⟨0, 0⟩
  else
    let top := x.leadingPower
    match (List.range 17).findSome? fun (k : Nat) => x.onGrid tie (top - k) with
    | some d => d.trimmed 20
    | none => ⟨0, 0⟩

end Kotlinize
