import SoftKeyboard.Numeric.Rounding

/-!
# Single-precision numbers

A `Single` is the 32 bits of a single-precision number; `Single.value` reads them as not a number,
an infinity or a signed dyadic number.  Products are rounded to the nearest number, and
`Single.toWord` rounds to a 32-bit word, away from zero at a half and to the nearest end of the
range outside it.
-/

namespace SoftKeyboard

/-- A single-precision number, as its sign bit, eight exponent bits and 23 fraction bits. -/
structure Single where
  bits : UInt32
  deriving DecidableEq, Repr, Inhabited

namespace Single

/-- The bit that a significand has and its 23 fraction bits do not, `2 ^ 23`. -/
def leadingBit : Nat := 0x800000

/-- The bit that says whether a number is negative, `2 ^ 31`. -/
def signBit : Nat := 0x80000000

/-- What the bits of a single-precision number stand for. -/
inductive Value where
  | nan
  | infinite (negative : Bool)
  | finite (negative : Bool) (magnitude : Dyadic)
  deriving DecidableEq, Repr

/-- Whether the sign bit is set. -/
def isNegative (x : Single) : Bool := signBit ≤ x.bits.toNat

/-- The bits without the sign bit; among numbers of one sign they grow with the magnitude. -/
def magnitudeBits (x : Single) : Nat := x.bits.toNat % signBit

/-- The value the bits stand for. -/
def value (x : Single) : Value :=
  let exponent : Nat := x.magnitudeBits / leadingBit
  let fraction : Nat := x.magnitudeBits % leadingBit
  if exponent = 255 then
    if fraction = 0 then .infinite x.isNegative else .nan
  else if exponent = 0 then .finite x.isNegative ⟨fraction, -149⟩
  else .finite x.isNegative ⟨leadingBit + fraction, (exponent : Int) - 150⟩

/-- Whether the bits stand for not a number. -/
def isNaN (x : Single) : Bool := x.value = .nan

/-! ### Building numbers -/

/-- The number with the given sign and magnitude bits. -/
def ofMagnitudeBits (negative : Bool) (magnitude : Nat) : Single :=
  ⟨UInt32.ofNat (magnitude + if negative then signBit else 0)⟩

/-- A quiet not-a-number. -/
def nan : Single := ⟨0x7fc00000⟩

/-- The infinity of the given sign. -/
def infinity (negative : Bool) : Single := ofMagnitudeBits negative (255 * leadingBit)

/-- The bits of a dyadic number of the single format: a significand without leading bit is stored
as it is, any other without its leading bit and with its exponent. -/
def encode (x : Dyadic) : Nat :=
  if x.significand < leadingBit then x.significand
  else (x.exponent + 150).toNat * leadingBit + (x.significand - leadingBit)

/-- The number nearest to `n / d` with the given sign, an infinity when there is none in range. -/
def ofQuotient (negative : Bool) (n d : Nat) : Single :=
  match BinaryFormat.single.round n d with
  | some x => ofMagnitudeBits negative (encode x)
  | none => infinity negative

/-- The number nearest to a dyadic number, with the given sign. -/
def ofDyadic (negative : Bool) (x : Dyadic) : Single :=
  ofQuotient negative x.numerator x.denominator

/-- The number nearest to a natural number. -/
def ofNat (n : Nat) : Single := ofQuotient false n 1

/-- The number nearest to `digits / 10 ^ places`. -/
def ofDecimal (digits places : Nat) : Single := ofQuotient false digits (Nat.pow 10 places)

/-- The number one. -/
def one : Single := ofNat 1

/-- The positive zero. -/
def zero : Single := ofNat 0

/-! ### Arithmetic -/

/-- The product, rounded to the nearest number. -/
def mul (x y : Single) : Single :=
  match x.value, y.value with
  | .nan, _ | _, .nan => nan
  | .infinite a, .infinite b => infinity (a != b)
  | .infinite a, .finite b m | .finite a m, .infinite b =>
    if m.significand = 0 then nan else infinity (a != b)
  | .finite a m, .finite b n => ofDyadic (a != b) (m.mul n)

/-- A number's place in the order of numbers; both zeros have place zero. -/
def rank (x : Single) : Int :=
  if x.isNegative then -(x.magnitudeBits : Int) else x.magnitudeBits

/-- Whether `x` is a number below the number `y`. -/
def below (x y : Single) : Bool := !x.isNaN && !y.isNaN && x.rank < y.rank

/-- The lesser of two numbers; not a number gives way to the other one. -/
def min (x y : Single) : Single :=
  if x.isNaN then y else if y.below x then y else x

/-- The greater of two numbers; not a number gives way to the other one. -/
def max (x y : Single) : Single :=
  if x.isNaN then y else if x.below y then y else x

/-- `x` kept between `low` and `high`; not a number stays as it is. -/
def clamp (x low high : Single) : Single :=
  if x.below low then low else if high.below x then high else x

/-- The nearest 32-bit word: a half goes away from zero, a number outside the range to the nearest
end of it, and not a number to zero. -/
def toWord (x : Single) : UInt32 :=
  match x.value with
  | .nan | .infinite true | .finite true _ => 0
  | .infinite false => UInt32.ofNat (UInt32.size - 1)
  | .finite false m => UInt32.ofNat (Nat.min m.roundHalfUp (UInt32.size - 1))

/-- Whether two numbers compare equal: both zeros do, and not a number equals nothing. -/
def equals (x y : Single) : Bool := !x.isNaN && !y.isNaN && x.rank == y.rank

end Single

end SoftKeyboard
