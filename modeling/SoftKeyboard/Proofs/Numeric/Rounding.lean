import Mathlib.Algebra.Order.Field.Power
import Mathlib.Tactic
import SoftKeyboard.Numeric.Shortest

/-!
# What rounding gives

`BinaryFormat.round` computes on natural numbers; here its result is described by the rational
number that was rounded.  In double precision that is a number within the relative distance
`2 ^ (-53)`, and the number itself if the format has it (`BinaryFormat.exists_double_round`).  In
single precision a quotient is rounded to the number that is within half a unit of its last place
(`BinaryFormat.Attracts`, `BinaryFormat.single_round_eq`).
-/

namespace SoftKeyboard

/-! ### Powers -/

/-- A power with an integer exponent, as a quotient of powers with natural exponents. -/
theorem pow_toNat_div_pow_toNat {b : ℕ} (hb : 0 < b) (k : ℤ) :
    ((b ^ k.toNat : ℕ) : ℚ) / (b ^ (-k).toNat : ℕ) = (b : ℚ) ^ k := by
  have hb' : (b : ℚ) ≠ 0 := by positivity
  rcases le_total 0 k with h | h
  · obtain ⟨n, rfl⟩ := Int.eq_ofNat_of_zero_le h
    simp
  · obtain ⟨n, hn⟩ := Int.eq_ofNat_of_zero_le (neg_nonneg.2 h)
    obtain rfl : k = -(n : ℤ) := by omega
    simp

theorem twoPower_div (k : ℤ) : (twoPower k : ℚ) / twoPower (-k) = 2 ^ k :=
  pow_toNat_div_pow_toNat (by decide) k

theorem tenPower_div (k : ℤ) : (tenPower k : ℚ) / tenPower (-k) = 10 ^ k :=
  pow_toNat_div_pow_toNat (by decide) k

theorem twoPower_pos (k : ℤ) : 0 < twoPower k := Nat.pow_pos (by decide)

theorem tenPower_pos (k : ℤ) : 0 < tenPower k := Nat.pow_pos (by decide)

/-- A quotient over a power of two, with the power on both sides. -/
theorem scaled_div (n d : ℕ) (k : ℤ) :
    ((n * twoPower (-k) : ℕ) : ℚ) / (d * twoPower k : ℕ) = n / d / 2 ^ k := by
  have hpos : (0 : ℚ) < twoPower (-k) := by exact_mod_cast twoPower_pos (-k)
  rw [← twoPower_div k]
  push_cast
  field_simp

/-! ### Dyadic numbers and decimals -/

namespace Dyadic

/-- The rational number that a dyadic number is. -/
def toRat (x : Dyadic) : ℚ := x.significand * 2 ^ x.exponent

theorem numerator_div_denominator (x : Dyadic) :
    (x.numerator : ℚ) / x.denominator = x.toRat := by
  rw [toRat, ← twoPower_div, numerator, denominator]
  push_cast
  ring

theorem denominator_pos (x : Dyadic) : 0 < x.denominator := twoPower_pos _

theorem toRat_mul (x y : Dyadic) : (x.mul y).toRat = x.toRat * y.toRat := by
  simp only [toRat, mul]
  rw [zpow_add₀ (by norm_num)]
  push_cast
  ring

theorem numerator_pos_iff (x : Dyadic) : 0 < x.numerator ↔ 0 < x.toRat := by
  have hd : (0 : ℚ) < x.denominator := by exact_mod_cast x.denominator_pos
  rw [← numerator_div_denominator, div_pos_iff_of_pos_right hd]
  exact_mod_cast Iff.rfl

end Dyadic

/-- The rational number that a decimal is. -/
def Decimal.toRat (x : Decimal) : ℚ := x.digits * 10 ^ x.exponent

/-! ### Integers -/

/-- A quotient is rounded to an integer at the distance of a half at most, an even one at exactly a
half. -/
theorem roundQuotient_spec (n : ℕ) {d : ℕ} (hd : 0 < d) :
    |(roundQuotient n d : ℚ) - n / d| < 1 / 2 ∨
      |(roundQuotient n d : ℚ) - n / d| = 1 / 2 ∧ roundQuotient n d % 2 = 0 := by
  have hd' : (0 : ℚ) < d := by exact_mod_cast hd
  have hdiv : (n : ℚ) / d = (n / d : ℕ) + (n % d : ℕ) / d := by
    have h : (d : ℚ) * (n / d : ℕ) + (n % d : ℕ) = n := by exact_mod_cast Nat.div_add_mod n d
    field_simp
    linarith
  have hrem : ((n % d : ℕ) : ℚ) / d < 1 := by
    rw [div_lt_one hd']
    exact_mod_cast Nat.mod_lt n hd
  have hrem0 : (0 : ℚ) ≤ ((n % d : ℕ) : ℚ) / d := by positivity
  rw [hdiv]
  unfold roundQuotient
  dsimp only
  split_ifs with hbelow habove
  · left
    have h : ((n % d : ℕ) : ℚ) / d < 1 / 2 := by
      rw [div_lt_iff₀ hd']
      have : ((2 * (n % d) : ℕ) : ℚ) < d := by exact_mod_cast hbelow
      push_cast at this
      linarith
    rw [abs_lt]
    constructor <;> linarith
  · left
    have h : 1 / 2 < ((n % d : ℕ) : ℚ) / d := by
      rw [lt_div_iff₀ hd']
      have : ((d : ℕ) : ℚ) < (2 * (n % d) : ℕ) := by exact_mod_cast habove
      push_cast at this
      linarith
    rw [abs_lt]
    push_cast
    constructor <;> linarith
  · right
    have h : ((n % d : ℕ) : ℚ) / d = 1 / 2 := by
      have : ((2 * (n % d) : ℕ) : ℚ) = d := by exact_mod_cast (by omega : 2 * (n % d) = d)
      push_cast at this
      field_simp
      linarith
    rcases Nat.mod_two_eq_zero_or_one (n / d) with heven | hodd
    · refine ⟨?_, by omega⟩
      rw [heven, h, abs_eq (by norm_num)]
      right
      push_cast
      linarith
    · refine ⟨?_, by omega⟩
      rw [hodd, h, abs_eq (by norm_num)]
      left
      push_cast
      linarith

/-- Only one integer is as near. -/
theorem roundQuotient_eq {n d k : ℕ} (hd : 0 < d)
    (h : |(k : ℚ) - n / d| < 1 / 2 ∨ |(k : ℚ) - n / d| = 1 / 2 ∧ k % 2 = 0) :
    roundQuotient n d = k := by
  have hspec := roundQuotient_spec n hd
  set r := roundQuotient n d with hr
  by_contra hne
  have hapart : (1 : ℚ) ≤ |(r : ℚ) - k| := by
    have : (1 : ℤ) ≤ |(r : ℤ) - k| := Int.one_le_abs (by omega)
    exact_mod_cast this
  have htriangle : |(r : ℚ) - k| ≤ |(r : ℚ) - n / d| + |(k : ℚ) - n / d| := by
    rw [abs_sub_comm (k : ℚ)]
    exact abs_sub_le _ _ _
  rcases hspec with hspec | ⟨hspec, hreven⟩
  · rcases h with h | ⟨h, -⟩ <;> linarith
  · rcases h with h | ⟨h, hkeven⟩
    · linarith
    · -- Both are even, so that their distance is not one.
      have hone : |(r : ℚ) - k| = 1 := le_antisymm (by linarith) hapart
      have hone' : |(r : ℤ) - k| = 1 := by exact_mod_cast hone
      rcases abs_eq (by norm_num) |>.1 hone' with h | h <;> omega

/-! ### Logarithms -/

theorem mul_twoPower_le_iff {n d : ℕ} (hd : 0 < d) (k : ℤ) :
    d * twoPower k ≤ n * twoPower (-k) ↔ (2 : ℚ) ^ k ≤ n / d := by
  have hd' : (0 : ℚ) < d := by exact_mod_cast hd
  have hpos : (0 : ℚ) < twoPower (-k) := by exact_mod_cast twoPower_pos (-k)
  rw [← twoPower_div, div_le_div_iff₀ hpos hd', mul_comm (twoPower k : ℚ)]
  exact_mod_cast Iff.rfl

theorem floorLog2_spec {n d : ℕ} (hn : 0 < n) (hd : 0 < d) :
    (2 : ℚ) ^ BinaryFormat.floorLog2 n d ≤ n / d ∧
      (n : ℚ) / d < 2 ^ (BinaryFormat.floorLog2 n d + 1) := by
  have hd' : (0 : ℚ) < d := by exact_mod_cast hd
  have htwo : (2 : ℚ) ≠ 0 := by norm_num
  -- The two logarithms bound the quotient up to a factor of two on both sides.
  have hnlow : (2 : ℚ) ^ (n.log2 : ℤ) ≤ n := by exact_mod_cast Nat.log2_self_le hn.ne'
  have hnhigh : (n : ℚ) < 2 ^ ((n.log2 : ℤ) + 1) := by exact_mod_cast Nat.lt_log2_self
  have hdlow : (2 : ℚ) ^ (d.log2 : ℤ) ≤ d := by exact_mod_cast Nat.log2_self_le hd.ne'
  have hdhigh : (d : ℚ) < 2 ^ ((d.log2 : ℤ) + 1) := by exact_mod_cast Nat.lt_log2_self
  have habove : (n : ℚ) / d < 2 ^ ((n.log2 : ℤ) - d.log2 + 1) := by
    rw [div_lt_iff₀ hd']
    calc (n : ℚ) < 2 ^ ((n.log2 : ℤ) + 1) := hnhigh
      _ = 2 ^ ((n.log2 : ℤ) - d.log2 + 1) * 2 ^ (d.log2 : ℤ) := by
        rw [← zpow_add₀ htwo]
        congr 1
        ring
      _ ≤ _ := mul_le_mul_of_nonneg_left hdlow (by positivity)
  have hbelow : (2 : ℚ) ^ ((n.log2 : ℤ) - d.log2 - 1) ≤ n / d := by
    rw [le_div_iff₀ hd']
    calc (2 : ℚ) ^ ((n.log2 : ℤ) - d.log2 - 1) * d
        ≤ 2 ^ ((n.log2 : ℤ) - d.log2 - 1) * 2 ^ ((d.log2 : ℤ) + 1) :=
          mul_le_mul_of_nonneg_left hdhigh.le (by positivity)
      _ = 2 ^ (n.log2 : ℤ) := by
        rw [← zpow_add₀ htwo]
        congr 1
        ring
      _ ≤ n := hnlow
  unfold BinaryFormat.floorLog2
  dsimp only
  split_ifs with h
  · exact ⟨(mul_twoPower_le_iff hd _).1 h, habove⟩
  · refine ⟨hbelow, ?_⟩
    rw [sub_add_cancel]
    exact lt_of_not_ge (mt (mul_twoPower_le_iff hd _).2 h)

/-- The logarithm is known from bounds on the quotient. -/
theorem lt_of_zpow_le_of_lt {v : ℚ} {a b : ℤ} (ha : (2 : ℚ) ^ a ≤ v) (hb : v < 2 ^ b) : a < b :=
  (zpow_lt_zpow_iff_right₀ (by norm_num)).1 (ha.trans_lt hb)

namespace BinaryFormat

/-! ### Formats -/

/-- How a quotient is rounded on the grid of its exponent. -/
theorem round_eq {f : BinaryFormat} {n d : ℕ} {e : ℤ} (hn : 0 < n)
    (he : max (floorLog2 n d + 1 - f.precision) f.minExponent = e) {s : ℕ}
    (hs : roundQuotient (n * twoPower (-e)) (d * twoPower e) = s) :
    f.round n d =
      let rounded : Dyadic :=
        if s = twoPower f.precision then ⟨twoPower (f.precision - 1), e + 1⟩ else ⟨s, e⟩
      if rounded.exponent ≤ f.maxExponent then some rounded else none := by
  rw [round, if_neg hn.ne']
  simp only [he, hs]

section Quotient

variable {n d : ℕ} {v : ℚ} (hd : 0 < d) (hv : (n : ℚ) / d = v)

/-- Rounding in double precision gives the multiple of the quotient's last place, also when its
significand is one too large and is halved. -/
theorem exists_double_round_eq (hn : 0 < n) (hlow : -1000 ≤ floorLog2 n d)
    (hhigh : floorLog2 n d < 900) :
    ∃ r, double.round n d = some r ∧
      r.toRat = roundQuotient (n * twoPower (-(floorLog2 n d - 52)))
        (d * twoPower (floorLog2 n d - 52)) * 2 ^ (floorLog2 n d - 52) := by
  generalize hk : floorLog2 n d = k at *
  have he : max (floorLog2 n d + 1 - (double.precision : ℤ)) double.minExponent = k - 52 := by
    simp only [double]
    omega
  have hmax : k - 52 + 1 ≤ double.maxExponent := by
    simp only [double]
    omega
  generalize hs : roundQuotient (n * twoPower (-(k - 52))) (d * twoPower (k - 52)) = s
  rw [round_eq hn he hs]
  by_cases hfull : s = twoPower double.precision
  · refine ⟨⟨twoPower (double.precision - 1), k - 52 + 1⟩, ?_, ?_⟩
    · simp only [if_pos hfull, if_pos hmax]
    · have htop : twoPower double.precision = 2 ^ 53 := rfl
      have hhalf : twoPower (double.precision - 1) = 2 ^ 52 := rfl
      rw [Dyadic.toRat, hfull, hhalf, htop, zpow_add_one₀ (by norm_num)]
      push_cast
      ring
  · refine ⟨⟨s, k - 52⟩, ?_, rfl⟩
    have hmax' : k - 52 ≤ double.maxExponent := by omega
    simp only [if_neg hfull, if_pos hmax']

include hv in
theorem pos_of_quotient_pos (hpos : 0 < v) : 0 < n := by
  rcases Nat.eq_zero_or_pos n with rfl | hn
  · simp at hv
    exact absurd hv hpos.ne
  · exact hn

include hd hv

/-- A quotient is within half a step of the multiple of `2 ^ e` that it is rounded to. -/
theorem abs_roundQuotient_sub_le (e : ℤ) :
    |(roundQuotient (n * twoPower (-e)) (d * twoPower e) : ℚ) * 2 ^ e - v| ≤ 2 ^ e / 2 := by
  have hgrid : (0 : ℚ) < 2 ^ e := by positivity
  have hspec := roundQuotient_spec (n * twoPower (-e)) (Nat.mul_pos hd (twoPower_pos e))
  rw [scaled_div, hv] at hspec
  set s := roundQuotient (n * twoPower (-e)) (d * twoPower e)
  have hhalf : |(s : ℚ) - v / 2 ^ e| ≤ 1 / 2 := by
    rcases hspec with h | ⟨h, -⟩
    · exact h.le
    · exact h.le
  calc |(s : ℚ) * 2 ^ e - v| = |(s : ℚ) - v / 2 ^ e| * 2 ^ e := by
        rw [← abs_of_pos hgrid, ← abs_mul, abs_of_pos hgrid]
        congr 1
        field_simp
    _ ≤ 1 / 2 * 2 ^ e := mul_le_mul_of_nonneg_right hhalf hgrid.le
    _ = 2 ^ e / 2 := by ring

/-- A multiple of `2 ^ e` is rounded to itself. -/
theorem roundQuotient_of_multiple {e : ℤ} {s : ℕ} (hs : v = s * 2 ^ e) :
    roundQuotient (n * twoPower (-e)) (d * twoPower e) = s := by
  refine roundQuotient_eq (Nat.mul_pos hd (twoPower_pos e)) (.inl ?_)
  rw [scaled_div, hv, hs, mul_div_cancel_right₀ _ (by positivity), sub_self]
  norm_num

/-- **Rounding in double precision** is exact up to a relative error of `2 ^ (-53)`, and exact for
the numbers of the format. -/
theorem exists_double_round (hlow : (2 : ℚ) ^ (-1000 : ℤ) ≤ v) (hhigh : v < 2 ^ (900 : ℤ)) :
    ∃ r, double.round n d = some r ∧ |r.toRat - v| ≤ v / 2 ^ 53 ∧
      ∀ (s : ℕ) (t : ℤ), s < 2 ^ 53 → v = s * 2 ^ t → r.toRat = v := by
  have htwo : (2 : ℚ) ≠ 0 := by norm_num
  have hn : 0 < n := pos_of_quotient_pos hv (lt_of_lt_of_le (by positivity) hlow)
  obtain ⟨hklow, hkhigh⟩ := floorLog2_spec hn hd
  rw [hv] at hklow hkhigh
  have hk1 := lt_of_zpow_le_of_lt hlow hkhigh
  have hk2 := lt_of_zpow_le_of_lt hklow hhigh
  obtain ⟨r, hr, hvalue⟩ := exists_double_round_eq hn (by omega) hk2
  generalize floorLog2 n d = k at *
  refine ⟨r, hr, ?_, ?_⟩
  · rw [hvalue]
    calc _ ≤ (2 : ℚ) ^ (k - 52) / 2 := abs_roundQuotient_sub_le hd hv (k - 52)
      _ = 2 ^ k / 2 ^ 53 := by
        rw [zpow_sub₀ htwo, div_div]
        norm_num
      _ ≤ v / 2 ^ 53 := by gcongr
  · intro s t hs hvt
    -- A significand of 53 bits does not reach below the grid.
    have hkt : k < 53 + t := by
      have hs' : (s : ℚ) < 2 ^ (53 : ℤ) := by exact_mod_cast hs
      refine lt_of_zpow_le_of_lt hklow ?_
      rw [hvt, zpow_add₀ htwo]
      exact mul_lt_mul_of_pos_right hs' (by positivity)
    obtain ⟨j, rfl⟩ : ∃ j : ℕ, t = k - 52 + j := ⟨(t - (k - 52)).toNat, by omega⟩
    have hmultiple : v = (s * 2 ^ j : ℕ) * 2 ^ (k - 52) := by
      rw [hvt, zpow_add₀ htwo, zpow_natCast]
      push_cast
      ring
    rw [hvalue, roundQuotient_of_multiple hd hv hmultiple, hmultiple]

end Quotient

/-- Whether a number is within half a unit of the last place of `x`, or at that distance and the
significand of `x` is even. -/
def Attracts (x : Dyadic) (v : ℚ) : Prop :=
  |(x.significand : ℚ) - v / 2 ^ x.exponent| < 1 / 2 ∨
    |(x.significand : ℚ) - v / 2 ^ x.exponent| = 1 / 2 ∧ x.significand % 2 = 0

theorem Attracts.le_half {x : Dyadic} {v : ℚ} (h : Attracts x v) :
    |(x.significand : ℚ) - v / 2 ^ x.exponent| ≤ 1 / 2 := by
  rcases h with h | ⟨h, -⟩
  · exact h.le
  · exact h.le

/-- A number is attracted by what it is within half a step of. -/
theorem attracts_of_abs_lt {x : Dyadic} {v : ℚ} (h : |v - x.toRat| < 2 ^ x.exponent / 2) :
    Attracts x v := by
  have hgrid : (0 : ℚ) < 2 ^ x.exponent := by positivity
  left
  have hscaled : |(x.significand : ℚ) - v / 2 ^ x.exponent| = |v - x.toRat| / 2 ^ x.exponent := by
    rw [abs_sub_comm, Dyadic.toRat, ← abs_of_pos hgrid, ← abs_div, abs_of_pos hgrid]
    congr 1
    field_simp
  rw [hscaled, div_lt_iff₀ hgrid]
  linarith

theorem Attracts.near {x : Dyadic} {v : ℚ} (h : Attracts x v) :
    |v - x.toRat| ≤ 2 ^ x.exponent / 2 := by
  have hgrid : (0 : ℚ) < 2 ^ x.exponent := by positivity
  calc |v - x.toRat| = |(x.significand : ℚ) - v / 2 ^ x.exponent| * 2 ^ x.exponent := by
        rw [abs_sub_comm, Dyadic.toRat, ← abs_of_pos hgrid, ← abs_mul, abs_of_pos hgrid]
        congr 1
        field_simp
    _ ≤ 1 / 2 * 2 ^ x.exponent := by
      have := h.le_half
      gcongr
    _ = 2 ^ x.exponent / 2 := by ring

/-- Whether a dyadic number is one that single precision has, as it is stored. -/
structure IsSingle (x : Dyadic) : Prop where
  significand_pos : 0 < x.significand
  significand_lt : x.significand < 2 ^ 24
  exponent_ge : -149 ≤ x.exponent
  exponent_le : x.exponent ≤ 104
  leading : x.exponent = -149 ∨ 2 ^ 23 ≤ x.significand

theorem Attracts.lt {x : Dyadic} {v : ℚ} (h : Attracts x v) (hx : IsSingle x) :
    v < 2 ^ (x.exponent + 24) := by
  have hgrid : (0 : ℚ) < 2 ^ x.exponent := by positivity
  have hm : (x.significand : ℚ) + 1 ≤ 2 ^ 24 := by exact_mod_cast hx.significand_lt
  have hhalf := (abs_le.1 h.le_half).1
  have hbelow : v / 2 ^ x.exponent < 2 ^ 24 := by linarith
  rw [div_lt_iff₀ hgrid] at hbelow
  rw [zpow_add₀ (by norm_num), mul_comm]
  exact_mod_cast hbelow

/-- **Rounding in single precision** finds the number that attracts the quotient. -/
theorem single_round_eq {n d : ℕ} {v : ℚ} (hd : 0 < d) (hv : (n : ℚ) / d = v) {x : Dyadic}
    (hx : IsSingle x) (hleading : x.exponent = -149 ∨ (2 : ℚ) ^ 23 ≤ v / 2 ^ x.exponent)
    (hattracts : Attracts x v) : single.round n d = some x := by
  obtain ⟨m, e⟩ := x
  have hm0 := hx.significand_pos
  have he1 := hx.exponent_ge
  dsimp only at hm0 he1 hleading
  have htwo : (2 : ℚ) ≠ 0 := by norm_num
  have hgrid : (0 : ℚ) < 2 ^ e := by positivity
  have hm0' : (1 : ℚ) ≤ m := by exact_mod_cast hm0
  have hhalf := (abs_le.1 hattracts.le_half).2
  have hpos : 0 < v / 2 ^ e := by linarith
  have hvpos : 0 < v := by
    rw [lt_div_iff₀ hgrid, zero_mul] at hpos
    exact hpos
  have hn : 0 < n := pos_of_quotient_pos hv hvpos
  have hhigh : v < 2 ^ (e + 24) := hattracts.lt hx
  obtain ⟨hklow, hkhigh⟩ := floorLog2_spec hn hd
  rw [hv] at hklow hkhigh
  have hk : floorLog2 n d < e + 24 := lt_of_zpow_le_of_lt hklow hhigh
  have he : max (floorLog2 n d + 1 - (single.precision : ℤ)) single.minExponent = e := by
    simp only [single]
    rcases hleading with rfl | hleading
    · omega
    · have hlow : (2 : ℚ) ^ (23 + e) ≤ v := by
        rw [le_div_iff₀ hgrid] at hleading
        rw [zpow_add₀ htwo]
        exact_mod_cast hleading
      have := lt_of_zpow_le_of_lt hlow hkhigh
      omega
  have hround : roundQuotient (n * twoPower (-e)) (d * twoPower e) = m := by
    refine roundQuotient_eq (Nat.mul_pos hd (twoPower_pos _)) ?_
    rw [scaled_div, hv]
    exact hattracts
  rw [round_eq hn he hround]
  have hfull : m ≠ twoPower single.precision := hx.significand_lt.ne
  have hmax : e ≤ single.maxExponent := hx.exponent_le
  simp only [if_neg hfull, if_pos hmax]

end BinaryFormat

end SoftKeyboard
