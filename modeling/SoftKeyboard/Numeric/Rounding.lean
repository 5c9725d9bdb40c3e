/-!
# Rounding to binary formats

A `BinaryFormat` is the set of numbers `m · 2 ^ e` with a bounded significand `m` and a bounded
exponent `e`, and `BinaryFormat.round` takes a quotient of natural numbers to the nearest of them,
a half to the even significand.  All arithmetic is exact, on natural numbers.
-/

namespace SoftKeyboard

/-- The quotient `n / d` rounded to the nearest integer, a half to the even neighbour. -/
def roundQuotient (n d : Nat) : Nat :=
  let q := n / d
  let twice := 2 * (n % d)
  if twice < d then q else if d < twice then q + 1 else q + q % 2

/-! ### Dyadic numbers -/

/-- `2 ^ k`, and one for a negative `k`.  A number `m · 2 ^ k` is then the quotient of
`m * twoPower k` and `twoPower (-k)`. -/
def twoPower (k : Int) : Nat := Nat.pow 2 k.toNat

/-- The number `significand · 2 ^ exponent`. -/
structure Dyadic where
  significand : Nat
  exponent : Int
  deriving DecidableEq, Repr

namespace Dyadic

/-- The numerator of the number as a quotient of natural numbers. -/
def numerator (x : Dyadic) : Nat := x.significand * twoPower x.exponent

/-- The denominator of the number as a quotient of natural numbers. -/
def denominator (x : Dyadic) : Nat := twoPower (-x.exponent)

/-- The exact product. -/
def mul (x y : Dyadic) : Dyadic := ⟨x.significand * y.significand, x.exponent + y.exponent⟩

/-- The number rounded to the nearest integer, a half upwards. -/
def roundHalfUp (x : Dyadic) : Nat :=
  (2 * x.numerator + x.denominator) / (2 * x.denominator)

end Dyadic

/-! ### Binary formats -/

/-- The numbers `m · 2 ^ e` with `m < 2 ^ precision` and `minExponent ≤ e ≤ maxExponent`. -/
structure BinaryFormat where
  precision : Nat
  minExponent : Int
  maxExponent : Int

namespace BinaryFormat

/-- Single precision: 24 significant bits. -/
def single : BinaryFormat := ⟨24, -149, 104⟩

/-- Double precision: 53 significant bits. -/
def double : BinaryFormat := ⟨53, -1074, 971⟩

/-- The greatest `k` with `2 ^ k ≤ n / d`, for positive `n` and `d`: the difference of the two
binary logarithms, or one less. -/
def floorLog2 (n d : Nat) : Int :=
  let k : Int := (Nat.log2 n : Int) - (Nat.log2 d : Int)
  if d * twoPower k ≤ n * twoPower (-k) then k else k - 1

/-- The number of the format nearest to `n / d`, a half going to the even significand; `none` when
that is beyond the largest number of the format. -/
def round (f : BinaryFormat) (n d : Nat) : Option Dyadic :=
  if n = 0 then some ⟨0, f.minExponent⟩
  else
    let exponent := max (floorLog2 n d + 1 - f.precision) f.minExponent
    let significand := roundQuotient (n * twoPower (-exponent)) (d * twoPower exponent)
    let rounded : Dyadic :=
      if significand = twoPower f.precision then ⟨twoPower (f.precision - 1), exponent + 1⟩
      else ⟨significand, exponent⟩
    if rounded.exponent ≤ f.maxExponent then some rounded else none

/-- The number of the format nearest to a dyadic number. -/
def roundDyadic (f : BinaryFormat) (x : Dyadic) : Option Dyadic :=
  f.round x.numerator x.denominator

end BinaryFormat

end SoftKeyboard
