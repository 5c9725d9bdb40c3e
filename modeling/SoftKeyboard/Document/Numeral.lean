import SoftKeyboard.Numeric.Shortest

/-!
# Decimal numerals

A `Numeral` is a JSON number as it is written: a sign, the digits before and after the point and an
exponent.  `Numeral.toWord?` and `Numeral.toSingle?` read it, `Numeral.ofWord` and
`Numeral.ofSingle` choose how a value is written, and `Numeral.render` writes it.
-/

namespace SoftKeyboard

/-! ### Digits -/

/-- A decimal digit. -/
abbrev Digit := Fin 10

namespace Digit

/-- The digit zero. -/
def zero : Digit := ⟨0, by decide⟩

/-- The digit a character shows. -/
def ofChar? (c : Char) : Option Digit :=
  if h : '0' ≤ c ∧ c ≤ '9' then
    some ⟨c.toNat - 48, by
      have := h.2
      simp only [Char.le_def, UInt32.le_iff_toNat_le] at this
      have hc : c.val.toNat ≤ 57 := this
      simp only [Char.toNat]
      omega⟩
  else none

/-- The character that shows the digit. -/
def toChar (d : Digit) : Char := Char.ofNat (48 + d)

/-- The decimal digits of a number, most significant first; zero has one. -/
def ofNat (n : Nat) : List Digit :=
  if h : n < 10 then [⟨n, h⟩] else ofNat (n / 10) ++ [⟨n % 10, Nat.mod_lt _ (by decide)⟩]
termination_by n

/-- The number that a list of digits shows. -/
def toNat (digits : List Digit) : Nat := digits.foldl (fun n d => 10 * n + d.val) 0

/-- Appends digits to a number as long as the result stays within 64 bits; the first digit that
does not fit is left out together with all after it.  Gives the number and how many were left
out. -/
def extend (n : Nat) : List Digit → Nat × Nat
  | [] => (n, 0)
  | d :: rest => if 10 * n + d < UInt64.size then extend (10 * n + d) rest else (n, rest.length + 1)

end Digit

/-! ### Numerals -/

/-- A JSON number as it is written.  There is no fraction when `fraction` is empty. -/
structure Numeral where
  negative : Bool
  whole : List Digit
  fraction : List Digit
  /-- The sign (`true` for minus) and the digits after the exponent mark. -/
  exponent : Option (Bool × List Digit)
  deriving DecidableEq, Repr

namespace Numeral

/-- The characters of a numeral; an exponent always has a sign. -/
def render (n : Numeral) : List Char :=
  (if n.negative then ['-'] else []) ++ n.whole.map Digit.toChar ++
    (if n.fraction.isEmpty then [] else '.' :: n.fraction.map Digit.toChar) ++
    match n.exponent with
    | none => []
    | some (negative, digits) =>
      'e' :: (if negative then '-' else '+') :: digits.map Digit.toChar

/-- Whether the numeral has neither fraction nor exponent. -/
def isInteger (n : Numeral) : Bool := n.fraction.isEmpty && n.exponent.isNone

/-! ### Words -/

/-- The numeral of a natural number. -/
def ofNat (n : Nat) : Numeral := ⟨false, Digit.ofNat n, [], none⟩

/-- The numeral of an integer. -/
def ofInt (n : Int) : Numeral := { ofNat n.natAbs with negative := n < 0 }

/-- The 32-bit word written by a numeral without sign, fraction and exponent. -/
def toWord? (n : Numeral) : Option UInt32 :=
  let value := Digit.toNat n.whole
  if !n.negative && n.isInteger && value < UInt32.size then some (UInt32.ofNat value) else none

/-- The integer written by a numeral without fraction and exponent. -/
def toInt? (n : Numeral) : Option Int :=
  let value : Int := Digit.toNat n.whole
  if n.isInteger then some (if n.negative then -value else value) else none

/-! ### Single-precision numbers

Integers of 64 bits are rounded once.  Any other numeral is first read in double precision: the
digits are gathered in 64 bits, the rest of them dropped, and the power of ten is applied by one
rounded product or quotient.
-/

/-- The double-precision number nearest to `10 ^ k`. -/
def powerOfTen? (k : Nat) : Option Dyadic := BinaryFormat.double.round (tenPower k) 1

/-- `x · 10 ^ exponent` in double precision, `none` beyond its range.  Powers below `10 ^ (-308)`
are divided out in steps; after three of them nothing is left of a 64-bit number. -/
def scale? : Nat → Dyadic → Int → Option Dyadic
  | 0, _, _ => some ⟨0, 0⟩
  | steps + 1, x, exponent =>
    if exponent.natAbs ≤ 308 then do
      let power ← powerOfTen? exponent.natAbs
      if 0 ≤ exponent then BinaryFormat.double.roundDyadic (x.mul power)
      else
        BinaryFormat.double.round (x.numerator * power.denominator)
          (x.denominator * power.numerator)
    else if x.significand = 0 then some x
    else if 0 ≤ exponent then none
    else do
      let power ← powerOfTen? 308
      let x ← BinaryFormat.double.round (x.numerator * power.denominator)
        (x.denominator * power.numerator)
      scale? steps x (exponent + 308)

/-- The magnitude of a numeral in double precision, `none` beyond its range. -/
def toDouble? (n : Numeral) : Option Dyadic :=
  let (whole, droppedWhole) := Digit.extend 0 n.whole
  let (significand, droppedFraction) := Digit.extend whole n.fraction
  let point : Int := droppedWhole - (n.fraction.length - droppedFraction : Nat)
  let scaled (exponent : Int) : Option Dyadic := do
    scale? 4 (← BinaryFormat.double.round significand 1) exponent
  match n.exponent with
  | none => scaled point
  | some (negative, digits) =>
    let exponent := Digit.toNat digits
    if exponent < Int32.size / 2 then
      scaled (if negative then point - exponent else point + exponent)
    else if significand ≠ 0 ∧ !negative then none
    else some ⟨0, 0⟩

/-- The single-precision number a numeral is read as, `none` beyond double precision. -/
def toSingle? (n : Numeral) : Option Single :=
  let value := Digit.toNat n.whole
  let short := if n.negative then 0 < value ∧ value ≤ UInt64.size / 2 else value < UInt64.size
  if n.isInteger ∧ short then some (Single.ofQuotient n.negative value 1)
  else n.toDouble?.map (Single.ofDyadic n.negative)

/-- How a decimal is written: positionally when the point falls at most 13 places behind the first
digit and at most 5 zeros before it, with `.0` when no digit is left for the fraction; otherwise
with one digit before the point and an exponent. -/
def ofDecimal (negative : Bool) (x : Decimal) : Numeral :=
  let digits := Digit.ofNat x.digits
  let point : Int := digits.length + x.exponent
  if 0 ≤ x.exponent ∧ point ≤ 13 then
    ⟨negative, digits ++ List.replicate x.exponent.toNat .zero, [.zero], none⟩
  else if 0 < point ∧ point ≤ 13 then
    ⟨negative, digits.take point.toNat, digits.drop point.toNat, none⟩
  else if -6 < point ∧ point ≤ 0 then
    ⟨negative, [.zero], List.replicate (-point).toNat .zero ++ digits, none⟩
  else
    ⟨negative, digits.take 1, digits.drop 1,
      some (point - 1 < 0, Digit.ofNat (point - 1).natAbs)⟩

/-- The numeral of a single-precision number: its shortest decimal.  Infinities and not a number
have none. -/
def ofSingle? (x : Single) : Option Numeral :=
  match x.value with
  | .nan | .infinite _ => none
  | .finite negative m =>
    if m.significand = 0 then some ⟨negative, [.zero], [.zero], none⟩
    else some (ofDecimal negative (Single.shortest m))

end Numeral

end SoftKeyboard
