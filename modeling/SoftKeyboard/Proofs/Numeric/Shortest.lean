import SoftKeyboard.Proofs.Numeric.Rounding

/-!
# What the shortest decimal is

The search for the shortest decimal of a single-precision number ends with a decimal that the number
attracts (`Single.shortest_spec`): one on a grid at least as coarse as the step of the number, or the
one nearest to the number on the first grid that is finer.  Left out are the least significands of
raised exponents, whose step is halved below them.
-/

namespace SoftKeyboard

open BinaryFormat (Attracts IsSingle)

/-- Whether the step of a number is the same on both of its sides. -/
def Dyadic.Symmetric (x : Dyadic) : Prop :=
  ¬ (x.significand = Single.leadingBit ∧ -149 < x.exponent)

instance (x : Dyadic) : Decidable x.Symmetric := inferInstanceAs (Decidable (¬ _))

namespace RoundingInterval

variable {x : Dyadic}

/-- The interval of a number holds what the number attracts. -/
theorem contains_ofSingle (hx : 0 < x.significand) (hsymmetric : x.Symmetric) (n : ℕ) {d : ℕ}
    (hd : 0 < d) : (ofSingle x).contains n d = true ↔ Attracts x (n / d) := by
  obtain ⟨m, e⟩ := x
  dsimp only at hx
  have hs : (0 : ℚ) < twoPower e := by exact_mod_cast twoPower_pos e
  have ht : (0 : ℚ) < twoPower (-e) := by exact_mod_cast twoPower_pos (-e)
  have hd' : (0 : ℚ) < d := by exact_mod_cast hd
  have hw : (n : ℚ) / d / 2 ^ e = n * twoPower (-e) / (d * twoPower e) := by
    rw [← twoPower_div]
    field_simp
  have hpos : (0 : ℚ) < d * twoPower e := by positivity
  -- Both ends of the interval, over the common denominator.
  have hlowcast : (((4 * m - 2) * twoPower e * d : ℕ) : ℚ) = (4 * m - 2) * twoPower e * d := by
    rw [Nat.cast_mul, Nat.cast_mul, Nat.cast_sub (by omega)]
    push_cast
    ring
  have hlow : (4 * m - 2) * twoPower e * d ≤ n * (4 * twoPower (-e)) ↔
      (m : ℚ) - 1 / 2 ≤ n / d / 2 ^ e := by
    rw [hw, le_div_iff₀ hpos, ← Nat.cast_le (α := ℚ), hlowcast]
    push_cast
    constructor <;> intro h <;> linarith
  have hlow' : (4 * m - 2) * twoPower e * d < n * (4 * twoPower (-e)) ↔
      (m : ℚ) - 1 / 2 < n / d / 2 ^ e := by
    rw [hw, lt_div_iff₀ hpos, ← Nat.cast_lt (α := ℚ), hlowcast]
    push_cast
    constructor <;> intro h <;> linarith
  have hhigh : n * (4 * twoPower (-e)) ≤ (4 * m + 2) * twoPower e * d ↔
      n / d / 2 ^ e ≤ (m : ℚ) + 1 / 2 := by
    rw [hw, div_le_iff₀ hpos, ← Nat.cast_le (α := ℚ)]
    push_cast
    constructor <;> intro h <;> linarith
  have hhigh' : n * (4 * twoPower (-e)) < (4 * m + 2) * twoPower e * d ↔
      n / d / 2 ^ e < (m : ℚ) + 1 / 2 := by
    rw [hw, div_lt_iff₀ hpos, ← Nat.cast_lt (α := ℚ)]
    push_cast
    constructor <;> intro h <;> linarith
  have hbelow : (if m = Single.leadingBit ∧ -149 < e then 1 else 2) = 2 := if_neg hsymmetric
  simp only [contains, ofSingle, hbelow, decide_eq_true_eq]
  by_cases heven : m % 2 = 0
  · simp only [heven, if_true, Bool.and_eq_true, decide_eq_true_eq, hlow, hhigh, Attracts, and_true]
    rw [← le_iff_lt_or_eq, abs_le]
    constructor <;> rintro ⟨h1, h2⟩ <;> constructor <;> linarith
  · simp only [heven, if_false, Bool.and_eq_true, decide_eq_true_eq, hlow', hhigh', Attracts,
      and_false, or_false]
    rw [abs_lt]
    constructor <;> rintro ⟨h1, h2⟩ <;> constructor <;> linarith

/-- What is found on a grid is attracted by the number. -/
theorem attracts_of_onGrid? (hx : 0 < x.significand) (hsymmetric : x.Symmetric) {q : ℤ} {digits : ℕ}
    (h : (ofSingle x).onGrid? q = some digits) :
    0 < digits ∧ Attracts x (digits * 10 ^ q) := by
  have hholds (k : ℕ) (hk : (decide (0 < k) &&
      (ofSingle x).contains (k * tenPower q) (tenPower (-q))) = true) :
      0 < k ∧ Attracts x (k * 10 ^ q) := by
    rw [Bool.and_eq_true, decide_eq_true_eq] at hk
    refine ⟨hk.1, ?_⟩
    have hattracts := (contains_ofSingle hx hsymmetric _ (tenPower_pos (-q))).1 hk.2
    rwa [Nat.cast_mul, mul_div_assoc, tenPower_div] at hattracts
  unfold onGrid? at h
  dsimp only at h
  split_ifs at h with hnearest hbelow hnext
  · obtain rfl := Option.some.inj h
    exact hholds _ hnearest
  · obtain rfl := Option.some.inj h
    exact hholds _ hbelow
  · obtain rfl := Option.some.inj h
    exact hholds _ hnext

/-- On a grid finer than the step of the number, its nearest neighbour is found. -/
theorem exists_onGrid? (hx : 0 < x.significand) (hsymmetric : x.Symmetric) {q : ℤ}
    (hq : (10 : ℚ) ^ q < 2 ^ x.exponent) :
    ∃ digits, (ofSingle x).onGrid? q = some digits ∧
      |(digits : ℚ) * 10 ^ q - x.toRat| ≤ 10 ^ q / 2 := by
  have hten : (0 : ℚ) < 10 ^ q := by positivity
  have htwo : (0 : ℚ) < 2 ^ x.exponent := by positivity
  have hm : (1 : ℚ) ≤ x.significand := by exact_mod_cast hx
  have hup : (0 : ℚ) < tenPower (-q) := by exact_mod_cast tenPower_pos (-q)
  have ht : (0 : ℚ) < twoPower (-x.exponent) := by exact_mod_cast twoPower_pos _
  have hdenominator : 0 < (ofSingle x).denominator * tenPower q :=
    Nat.mul_pos (Nat.mul_pos (by decide) (twoPower_pos _)) (tenPower_pos q)
  have hquotient : (((ofSingle x).centre * tenPower (-q) : ℕ) : ℚ) /
      ((ofSingle x).denominator * tenPower q : ℕ) = x.toRat / 10 ^ q := by
    rw [Dyadic.toRat, ← tenPower_div, ← twoPower_div]
    simp only [ofSingle]
    push_cast
    field_simp
  have hspec := roundQuotient_spec ((ofSingle x).centre * tenPower (-q)) hdenominator
  set digits := roundQuotient ((ofSingle x).centre * tenPower (-q))
    ((ofSingle x).denominator * tenPower q) with hdigits
  rw [hquotient] at hspec
  have hhalf : |(digits : ℚ) - x.toRat / 10 ^ q| ≤ 1 / 2 := by
    rcases hspec with h | ⟨h, -⟩
    · exact h.le
    · exact h.le
  have hnear : |(digits : ℚ) * 10 ^ q - x.toRat| ≤ 10 ^ q / 2 := by
    calc |(digits : ℚ) * 10 ^ q - x.toRat| = |(digits : ℚ) - x.toRat / 10 ^ q| * 10 ^ q := by
          rw [← abs_of_pos hten, ← abs_mul, abs_of_pos hten]
          congr 1
          field_simp
      _ ≤ 1 / 2 * 10 ^ q := mul_le_mul_of_nonneg_right hhalf hten.le
      _ = 10 ^ q / 2 := by ring
  have hpos : 0 < digits := by
    have hlarge : 1 < x.toRat / 10 ^ q := by
      rw [one_lt_div hten, Dyadic.toRat]
      nlinarith
    have : (0 : ℚ) < digits := by linarith [(abs_le.1 hhalf).1]
    exact_mod_cast this
  have hattracts : Attracts x (digits * 10 ^ q) := by
    refine BinaryFormat.attracts_of_abs_lt (hnear.trans_lt ?_)
    linarith
  have hcontains : (ofSingle x).contains (digits * tenPower q) (tenPower (-q)) = true := by
    rw [contains_ofSingle hx hsymmetric _ (tenPower_pos (-q)), Nat.cast_mul, mul_div_assoc,
      tenPower_div]
    exact hattracts
  refine ⟨digits, ?_, hnear⟩
  unfold onGrid?
  dsimp only
  rw [← hdigits, if_pos]
  rw [hcontains, decide_eq_true hpos]
  rfl

/-- The search ends on a grid at least as coarse as one on which there is something to find. -/
theorem exists_search {i : RoundingInterval} {fuel : ℕ} {q q₁ : ℤ} (h : (i.onGrid? q₁).isSome)
    (hle : q₁ ≤ q) (hfuel : q - q₁ < fuel) :
    ∃ digits q', i.search fuel q = some ⟨digits, q'⟩ ∧ i.onGrid? q' = some digits ∧
      q₁ ≤ q' ∧ q' ≤ q := by
  induction fuel generalizing q with
  | zero => omega
  | succ fuel ih =>
    rw [search]
    cases hgrid : i.onGrid? q with
    | some digits => exact ⟨digits, q, rfl, hgrid, hle, le_rfl⟩
    | none =>
      have hne : q₁ ≠ q := by
        rintro rfl
        simp [hgrid] at h
      obtain ⟨digits, q', hsearch, hfound, hlow, hhigh⟩ := ih (q := q - 1) (by omega) (by omega)
      exact ⟨digits, q', hsearch, hfound, hlow, by omega⟩

end RoundingInterval

/-- **What the shortest decimal of a number is.** -/
theorem Single.shortest_spec {x : Dyadic} (hx : IsSingle x) (hsymmetric : x.Symmetric) :
    let decimal := shortest x
    0 < decimal.digits ∧ Attracts x decimal.toRat ∧
      -45 ≤ decimal.exponent ∧ decimal.exponent ≤ 39 ∧
      ((2 : ℚ) ^ x.exponent ≤ 10 ^ decimal.exponent ∨
        (10 : ℚ) ^ decimal.exponent < 2 ^ x.exponent ∧
          (2 : ℚ) ^ x.exponent ≤ 10 ^ (decimal.exponent + 1) ∧
          |decimal.toRat - x.toRat| ≤ 10 ^ decimal.exponent / 2) := by
  have hpos := hx.significand_pos
  obtain ⟨q₁, hlow, hhigh⟩ : ∃ q₁ : ℤ, (10 : ℚ) ^ q₁ < 2 ^ x.exponent ∧
      (2 : ℚ) ^ x.exponent ≤ 10 ^ (q₁ + 1) := by
    obtain ⟨q₁, h⟩ := exists_mem_Ioc_zpow (by positivity : (0 : ℚ) < 2 ^ x.exponent)
      (by norm_num : (1 : ℚ) < 10)
    exact ⟨q₁, h.1, h.2⟩
  have hq₁ : -45 ≤ q₁ := by
    have hsmall : (10 : ℚ) ^ (-45 : ℤ) < 10 ^ (q₁ + 1) := by
      calc (10 : ℚ) ^ (-45 : ℤ) < 2 ^ (-149 : ℤ) := by norm_num
        _ ≤ 2 ^ x.exponent := zpow_le_zpow_right₀ (by norm_num) hx.exponent_ge
        _ ≤ _ := hhigh
    have := (zpow_lt_zpow_iff_right₀ (by norm_num : (1 : ℚ) < 10)).1 hsmall
    omega
  have hq₁' : q₁ ≤ 39 := by
    have hlarge : (10 : ℚ) ^ q₁ < 10 ^ (39 : ℤ) := by
      calc (10 : ℚ) ^ q₁ < 2 ^ x.exponent := hlow
        _ ≤ 2 ^ (104 : ℤ) := zpow_le_zpow_right₀ (by norm_num) hx.exponent_le
        _ < 10 ^ (39 : ℤ) := by norm_num
    have := (zpow_lt_zpow_iff_right₀ (by norm_num : (1 : ℚ) < 10)).1 hlarge
    omega
  obtain ⟨nearest, hnearest, hdistance⟩ := RoundingInterval.exists_onGrid? hpos hsymmetric hlow
  obtain ⟨digits, q, hsearch, hfound, hge, hle⟩ :=
    @RoundingInterval.exists_search _ 100 39 q₁ (by rw [hnearest]; rfl) hq₁' (by push_cast; omega)
  have hshortest : shortest x = ⟨digits, q⟩ := by
    rw [shortest, hsearch]
    rfl
  obtain ⟨hdigits, hattracts⟩ := RoundingInterval.attracts_of_onGrid? hpos hsymmetric hfound
  rw [hshortest]
  refine ⟨hdigits, hattracts, hq₁.trans hge, hle, ?_⟩
  rcases eq_or_lt_of_le hge with rfl | hlt
  · rw [hnearest] at hfound
    obtain rfl := Option.some.inj hfound
    exact .inr ⟨hlow, hhigh, hdistance⟩
  · left
    calc (2 : ℚ) ^ x.exponent ≤ 10 ^ (q₁ + 1) := hhigh
      _ ≤ 10 ^ q := zpow_le_zpow_right₀ (by norm_num) (by omega)

end SoftKeyboard
