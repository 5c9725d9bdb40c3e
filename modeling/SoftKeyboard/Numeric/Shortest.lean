import SoftKeyboard.Numeric.Single

/-!
# Shortest decimals

`Single.shortest` finds the decimal `digits · 10 ^ exponent` with the fewest digits among those
that round to a given single-precision number, and of these the nearest.  It walks the decimal
grids from coarse to fine and looks at the two neighbours of the number on each.
-/

namespace SoftKeyboard

/-- The decimal number `digits · 10 ^ exponent`. -/
structure Decimal where
  digits : Nat
  exponent : Int
  deriving DecidableEq, Repr

/-- `10 ^ k`, and one for a negative `k`. -/
def tenPower (k : Int) : Nat := Nat.pow 10 k.toNat

/-- The numbers that round to one number of a binary format, over a common denominator. -/
structure RoundingInterval where
  /-- The number itself. -/
  centre : Nat
  low : Nat
  high : Nat
  denominator : Nat
  /-- Whether both ends round to the number too. -/
  closed : Bool

namespace RoundingInterval

/-- The interval of the significand and exponent of a single-precision number: half a step to both
sides, but a quarter below the least significand of a raised exponent. -/
def ofSingle (x : Dyadic) : RoundingInterval :=
  let step := twoPower x.exponent
  let below := if x.significand = Single.leadingBit ∧ -149 < x.exponent then 1 else 2
  { centre := 4 * x.significand * step
    low := (4 * x.significand - below) * step
    high := (4 * x.significand + 2) * step
    denominator := 4 * twoPower (-x.exponent)
    closed := x.significand % 2 = 0 }

/-- Whether `n / d` lies in the interval. -/
def contains (i : RoundingInterval) (n d : Nat) : Bool :=
  let scaled := n * i.denominator
  if i.closed then i.low * d ≤ scaled && scaled ≤ i.high * d
  else i.low * d < scaled && scaled < i.high * d

/-- The neighbour of the centre on the grid `10 ^ q` that lies in the interval; of two the nearer,
and of two equally near the even one. -/
def onGrid? (i : RoundingInterval) (q : Int) : Option Nat :=
  let up := tenPower (-q)
  let down := tenPower q
  let numerator := i.centre * up
  let denominator := i.denominator * down
  let below := numerator / denominator
  let holds (k : Nat) : Bool := 0 < k && i.contains (k * down) up
  let nearest := roundQuotient numerator denominator
  if holds nearest then some nearest
  else if holds below then some below
  else if holds (below + 1) then some (below + 1)
  else none

/-- The first decimal found on the grids `10 ^ q`, `10 ^ (q - 1)`, …. -/
def search (i : RoundingInterval) : Nat → Int → Option Decimal
  | 0, _ => none
  | fuel + 1, q =>
    match i.onGrid? q with
    | some digits => some ⟨digits, q⟩
    | none => i.search fuel (q - 1)

end RoundingInterval

/-- The shortest decimal that rounds to a positive single-precision number given by its significand
and exponent.  Every such number has one between the grids `10 ^ 39` and `10 ^ (-60)`. -/
def Single.shortest (x : Dyadic) : Decimal :=
  ((RoundingInterval.ofSingle x).search 100 39).getD ⟨0, 0⟩

end SoftKeyboard
