import SoftKeyboard.Proofs.Numeric.Rounding

/-!
# Decimals next to binary numbers

A decimal with few digits that is not half-way between two single-precision numbers keeps a relative
distance of more than `3 · 2 ^ (-53)` from there (`apart_of_coarse`), so that two errors of double
precision do not carry it across.  How near `k · 2 ^ j` and `digits · 10 ^ q` can come is a question
about fractions `k / digits` near `10 ^ q / 2 ^ j`: with bounded numerators and denominators, the
nearest are the two neighbours that `Bracket.narrow` finds, for each pair of exponents.
-/

namespace SoftKeyboard

/-- Two fractions, `lowNum / lowDen` and `highNum / highDen`. -/
structure Bracket where
  lowNum : ℕ
  lowDen : ℕ
  highNum : ℕ
  highDen : ℕ

namespace Bracket

/-- How far the lower fraction is below `n / d`, over their common denominator. -/
def lowGap (b : Bracket) (n d : ℕ) : ℕ := b.lowDen * n - b.lowNum * d

/-- How far the upper fraction is above `n / d`, over their common denominator. -/
def highGap (b : Bracket) (n d : ℕ) : ℕ := b.highNum * d - b.highDen * n

/-- Moves the fractions towards `n / d`, as many mediants at a time as stay on one side of it, until
the next mediant has a denominator above `2 ^ 24` or a numerator of at least `2 ^ 25`. -/
def narrow (n d : ℕ) : ℕ → Bracket → Bracket
  | 0, b => b
  | fuel + 1, b =>
    if 2 ^ 24 < b.lowDen + b.highDen ∨ 2 ^ 25 ≤ b.lowNum + b.highNum then b
    else
      let low := b.lowGap n d
      let high := b.highGap n d
      if high ≤ low then
        let room := min ((2 ^ 24 - b.lowDen) / max b.highDen 1) ((2 ^ 25 - b.lowNum) / b.highNum)
        let steps := min (low / high) room
        narrow n d fuel
          { b with lowNum := b.lowNum + steps * b.highNum, lowDen := b.lowDen + steps * b.highDen }
      else
        let room := min ((2 ^ 24 - b.highDen) / b.lowDen) ((2 ^ 25 - b.highNum) / max b.lowNum 1)
        let steps := if low = 0 then room else min ((high - 1) / low) room
        narrow n d fuel
          { b with highNum := b.highNum + steps * b.lowNum, highDen := b.highDen + steps * b.lowDen }

/-- Whether the fractions are neighbours around `n / d`, with no fraction between them that has a
denominator up to `2 ^ 24` and a numerator below `2 ^ 25`. -/
structure Encloses (b : Bracket) (n d : ℕ) : Prop where
  neighbours : b.highNum * b.lowDen = b.lowNum * b.highDen + 1
  low_le : b.lowNum * d ≤ b.lowDen * n
  lt_high : b.highDen * n < b.highNum * d
  wide : 2 ^ 24 < b.lowDen + b.highDen ∨ 2 ^ 25 ≤ b.lowNum + b.highNum

instance (b : Bracket) (n d : ℕ) : Decidable (b.Encloses n d) :=
  decidable_of_iff
    (b.highNum * b.lowDen = b.lowNum * b.highDen + 1 ∧ b.lowNum * d ≤ b.lowDen * n ∧
      b.highDen * n < b.highNum * d ∧
      (2 ^ 24 < b.lowDen + b.highDen ∨ 2 ^ 25 ≤ b.lowNum + b.highNum))
    ⟨fun ⟨h₁, h₂, h₃, h₄⟩ => ⟨h₁, h₂, h₃, h₄⟩, fun ⟨h₁, h₂, h₃, h₄⟩ => ⟨h₁, h₂, h₃, h₄⟩⟩

/-- Whether a gap is more than `3 · 2 ^ (-53)` of the `k` beside which it is. -/
def Clear (k d gap : ℕ) : Prop := 3 * k * d < 2 ^ 53 * gap

instance (k d gap : ℕ) : Decidable (Clear k d gap) := inferInstanceAs (Decidable (_ < _))

namespace Encloses

variable {b : Bracket} {n d : ℕ}

theorem cast_lowGap (h : b.Encloses n d) :
    (b.lowGap n d : ℤ) = b.lowDen * n - b.lowNum * d := by
  rw [lowGap, Nat.cast_sub h.low_le]
  push_cast
  ring

theorem cast_highGap (h : b.Encloses n d) :
    (b.highGap n d : ℤ) = b.highNum * d - b.highDen * n := by
  rw [highGap, Nat.cast_sub h.lt_high.le]
  push_cast
  ring

theorem highGap_pos (h : b.Encloses n d) : 0 < b.highGap n d := Nat.sub_pos_of_lt h.lt_high

/-- Every fraction is a combination of the neighbours with integer weights. -/
theorem exists_weights (h : b.Encloses n d) (k D : ℤ) :
    ∃ low high : ℤ, D = low * b.lowDen + high * b.highDen ∧ k = low * b.lowNum + high * b.highNum ∧
      D * n - k * d = low * b.lowGap n d - high * b.highGap n d := by
  have hneighbours : (b.highNum * b.lowDen : ℤ) = b.lowNum * b.highDen + 1 := by
    exact_mod_cast h.neighbours
  refine ⟨D * b.highNum - k * b.highDen, k * b.lowDen - D * b.lowNum, ?_, ?_, ?_⟩
  · linear_combination -D * hneighbours
  · linear_combination -k * hneighbours
  · rw [h.cast_lowGap, h.cast_highGap]
    linear_combination (k * d - D * n) * hneighbours

section Weights

variable {k D : ℕ} {low high : ℤ} (hk : k < 2 ^ 25)
  (hkeq : (k : ℤ) = low * b.lowNum + high * b.highNum)
  (hgap : (D * n - k * d : ℤ) = low * b.lowGap n d - high * b.highGap n d)

include hk hkeq hgap

/-- A fraction at or below the lower neighbour. -/
theorem clear_below (h : b.Encloses n d)
    (hlow : Clear b.lowNum d (b.lowGap n d) ∨
      b.lowGap n d = 0 ∧ Clear (2 ^ 25) d (b.highGap n d))
    (hlow0 : 0 < low) (hhigh0 : high ≤ 0) :
    (3 * k * d : ℤ) < 2 ^ 53 * |(D * n - k * d : ℤ)| ∨ (D * n = k * d ∧ b.lowGap n d = 0) := by
  have hhighpos : (0 : ℤ) < b.highGap n d := by exact_mod_cast h.highGap_pos
  have hlowpos : (0 : ℤ) ≤ b.lowGap n d := by positivity
  have hle : (k : ℤ) ≤ low * b.lowNum := by
    have := mul_nonpos_of_nonpos_of_nonneg hhigh0 (Nat.cast_nonneg (α := ℤ) b.highNum)
    linarith
  have hfar : low * b.lowGap n d ≤ low * b.lowGap n d - high * b.highGap n d := by
    have := mul_nonpos_of_nonpos_of_nonneg hhigh0 hhighpos.le
    linarith
  unfold Clear at hlow
  zify at hlow ⊢
  rw [hgap, abs_of_nonneg ((mul_nonneg hlow0.le hlowpos).trans hfar)]
  rcases hlow with hclear | ⟨hzero, hclear⟩
  · left
    calc 3 * (k : ℤ) * d ≤ 3 * (low * b.lowNum) * d := by gcongr
      _ = low * (3 * b.lowNum * d) := by ring
      _ < low * (2 ^ 53 * b.lowGap n d) := mul_lt_mul_of_pos_left hclear hlow0
      _ = 2 ^ 53 * (low * b.lowGap n d) := by ring
      _ ≤ _ := by gcongr
  · rcases eq_or_lt_of_le hhigh0 with rfl | hhigh0
    · right
      refine ⟨?_, hzero⟩
      rw [hzero] at hgap
      linarith
    · left
      have hhighfar : (b.highGap n d : ℤ) ≤ low * b.lowGap n d - high * b.highGap n d := by
        rw [hzero, mul_zero, zero_sub, ← neg_mul]
        exact le_mul_of_one_le_left hhighpos.le (by omega)
      calc 3 * (k : ℤ) * d ≤ 3 * 2 ^ 25 * d := by
            have : (k : ℤ) ≤ 2 ^ 25 := by exact_mod_cast hk.le
            gcongr
        _ < 2 ^ 53 * b.highGap n d := hclear
        _ ≤ _ := by gcongr

/-- A fraction at or above the upper neighbour. -/
theorem clear_above (h : b.Encloses n d)
    (hhigh : Clear b.highNum d (b.highGap n d) ∨
      2 ^ 24 ≤ b.highNum ∧ Clear (2 ^ 25) d (b.lowGap n d))
    (hlow0 : low ≤ 0) (hhigh0 : 0 < high) :
    (3 * k * d : ℤ) < 2 ^ 53 * |(D * n - k * d : ℤ)| ∨
      (k = b.highNum ∧ ¬ Clear b.highNum d (b.highGap n d)) := by
  have hhighpos : (0 : ℤ) < b.highGap n d := by exact_mod_cast h.highGap_pos
  have hlowpos : (0 : ℤ) ≤ b.lowGap n d := by positivity
  have hle : (k : ℤ) ≤ high * b.highNum := by
    have := mul_nonpos_of_nonpos_of_nonneg hlow0 (Nat.cast_nonneg (α := ℤ) b.lowNum)
    linarith
  have hfar : high * b.highGap n d ≤ -(low * b.lowGap n d - high * b.highGap n d) := by
    have := mul_nonpos_of_nonpos_of_nonneg hlow0 hlowpos
    linarith
  unfold Clear at *
  zify at hhigh ⊢
  rw [hgap, abs_of_nonpos (neg_nonneg.1 ((mul_nonneg hhigh0.le hhighpos.le).trans hfar))]
  by_cases hclear : 3 * (b.highNum : ℤ) * d < 2 ^ 53 * b.highGap n d
  · left
    calc 3 * (k : ℤ) * d ≤ 3 * (high * b.highNum) * d := by gcongr
      _ = high * (3 * b.highNum * d) := by ring
      _ < high * (2 ^ 53 * b.highGap n d) := mul_lt_mul_of_pos_left hclear hhigh0
      _ = 2 ^ 53 * (high * b.highGap n d) := by ring
      _ ≤ _ := by gcongr
  · obtain ⟨hlarge, hclearlow⟩ := hhigh.resolve_left hclear
    rcases eq_or_lt_of_le hlow0 with rfl | hlow0
    · -- Twice the upper neighbour is beyond the bound on numerators.
      right
      refine ⟨?_, hclear⟩
      rw [zero_mul, zero_add] at hkeq
      have hone : high < 2 := by
        by_contra htwo
        have := mul_le_mul (not_lt.1 htwo) hlarge (by positivity) hhigh0.le
        omega
      rw [hkeq, show high = 1 by omega, one_mul]
    · left
      have hlowfar : (b.lowGap n d : ℤ) ≤ -(low * b.lowGap n d - high * b.highGap n d) := by
        have hmany := le_mul_of_one_le_left hlowpos (show 1 ≤ -low by omega)
        have hnonneg := mul_nonneg hhigh0.le hhighpos.le
        linarith
      calc 3 * (k : ℤ) * d ≤ 3 * 2 ^ 25 * d := by
            have : (k : ℤ) ≤ 2 ^ 25 := by exact_mod_cast hk.le
            gcongr
        _ < 2 ^ 53 * b.lowGap n d := hclearlow
        _ ≤ _ := by gcongr

end Weights

/-- **Every fraction is as far from `n / d` as the neighbours are**, unless it is the upper one and
that is nearer. -/
theorem clear (h : b.Encloses n d)
    (hlow : Clear b.lowNum d (b.lowGap n d) ∨
      b.lowGap n d = 0 ∧ Clear (2 ^ 25) d (b.highGap n d))
    (hhigh : Clear b.highNum d (b.highGap n d) ∨
      2 ^ 24 ≤ b.highNum ∧ Clear (2 ^ 25) d (b.lowGap n d))
    {k D : ℕ} (hD : 0 < D) (hD' : D ≤ 2 ^ 24) (hk : k < 2 ^ 25) :
    (3 * k * d : ℤ) < 2 ^ 53 * |(D * n - k * d : ℤ)| ∨
      (D * n = k * d ∧ b.lowGap n d = 0) ∨
      (k = b.highNum ∧ ¬ Clear b.highNum d (b.highGap n d)) := by
  obtain ⟨low, high, hDeq, hkeq, hgap⟩ := h.exists_weights k D
  rcases lt_or_ge 0 low with hlow0 | hlow0 <;> rcases lt_or_ge 0 high with hhigh0 | hhigh0
  · -- Both weights are positive: the fraction is not within the bounds.
    exfalso
    have hweigh (i j : ℕ) : (i + j : ℤ) ≤ low * i + high * j :=
      add_le_add (le_mul_of_one_le_left (by positivity) hlow0)
        (le_mul_of_one_le_left (by positivity) hhigh0)
    have hdens := hDeq ▸ hweigh b.lowDen b.highDen
    have hnums := hkeq ▸ hweigh b.lowNum b.highNum
    have hwide := h.wide
    omega
  · exact (clear_below hk hkeq hgap h hlow hlow0 hhigh0).imp_right .inl
  · exact (clear_above hk hkeq hgap h hhigh hlow0 hhigh0).imp_right .inr
  · -- No weight is positive: the denominator is not.
    exfalso
    have hlowDen := mul_nonpos_of_nonpos_of_nonneg hlow0 (Nat.cast_nonneg (α := ℤ) b.lowDen)
    have hhighDen := mul_nonpos_of_nonpos_of_nonneg hhigh0 (Nat.cast_nonneg (α := ℤ) b.highDen)
    have hDpos : (0 : ℤ) < D := by exact_mod_cast hD
    linarith

end Encloses

end Bracket

/-! ### Powers of ten and of two -/

/-- The numerator of `10 ^ q / 2 ^ j`. -/
def powerNum (q j : ℤ) : ℕ := tenPower q * twoPower (-j)

/-- The denominator of `10 ^ q / 2 ^ j`. -/
def powerDen (q j : ℤ) : ℕ := tenPower (-q) * twoPower j

/-- A multiple of `10 ^ q` and one of `2 ^ j`, over a common denominator. -/
theorem exists_common_denominator (q j : ℤ) :
    ∃ c : ℚ, 0 < c ∧ (10 : ℚ) ^ q * c = powerNum q j ∧ (2 : ℚ) ^ j * c = powerDen q j := by
  have hten : (0 : ℚ) < tenPower (-q) := by exact_mod_cast tenPower_pos (-q)
  have htwo : (0 : ℚ) < twoPower (-j) := by exact_mod_cast twoPower_pos (-j)
  refine ⟨tenPower (-q) * twoPower (-j), by positivity, ?_, ?_⟩
  · rw [← tenPower_div, powerNum]
    push_cast
    field_simp
  · rw [← twoPower_div, powerDen]
    push_cast
    field_simp

/-- The neighbours of `10 ^ q / 2 ^ j`. -/
def powerBracket (q j : ℤ) : Bracket :=
  .narrow (powerNum q j) (powerDen q j) 60 ⟨0, 1, 1, 0⟩

/-- Whether the neighbours of `10 ^ q / 2 ^ j` are far from it.  A power of ten of double precision
may be met, and one fraction is nearer: `7038531 · 10 ^ (-32)` is next to `22841339 · 2 ^ (-108)`. -/
def PowersApart (q j : ℤ) : Prop :=
  let b := powerBracket q j
  let low := b.lowGap (powerNum q j) (powerDen q j)
  let high := b.highGap (powerNum q j) (powerDen q j)
  b.Encloses (powerNum q j) (powerDen q j) ∧
    (Bracket.Clear b.lowNum (powerDen q j) low ∨
      q.natAbs ≤ 22 ∧ low = 0 ∧ Bracket.Clear (2 ^ 25) (powerDen q j) high) ∧
    (Bracket.Clear b.highNum (powerDen q j) high ∨
      b.highNum = 22841339 ∧ (j = -108 ∨ j = -107) ∧ Bracket.Clear (2 ^ 25) (powerDen q j) low)

instance (q j : ℤ) : Decidable (PowersApart q j) := inferInstanceAs (Decidable (_ ∧ _))

/-- The greatest `k` with `2 ^ k ≤ 10 ^ q`. -/
def tenLog (q : ℤ) : ℤ := BinaryFormat.floorLog2 (tenPower q) (tenPower (-q))

theorem tenLog_spec (q : ℤ) :
    (2 : ℚ) ^ tenLog q ≤ 10 ^ q ∧ (10 : ℚ) ^ q < 2 ^ (tenLog q + 1) := by
  rw [← tenPower_div q]
  exact floorLog2_spec (tenPower_pos q) (tenPower_pos (-q))

/-- All pairs of exponents for which a decimal with few digits is a number of single precision: for
each power of ten the powers of two that are at most 24 places below it. -/
theorem powersApart : ∀ t : ℕ, t < 85 → ∀ s : ℕ, s < 24 →
    -149 ≤ tenLog (t - 45) - s → tenLog (t - 45) - s ≤ 104 →
    PowersApart (t - 45) (tenLog (t - 45) - s - 1) := by
  decide +kernel

/-- Each power of ten, and the next power of two. -/
theorem powers_differ : ∀ t : ℕ, t < 85 →
    4096 * powerNum (t - 45) (tenLog (t - 45) + 1) <
      4095 * powerDen (t - 45) (tenLog (t - 45) + 1) := by
  decide +kernel

/-- A power of ten is not right below one of two. -/
theorem lt_of_fine {e q : ℤ} (hq : -45 ≤ q) (hq' : q ≤ 39) (h : (10 : ℚ) ^ q < 2 ^ e) :
    4096 * (10 : ℚ) ^ q < 4095 * 2 ^ e := by
  obtain ⟨hlow, -⟩ := tenLog_spec q
  have hlt : tenLog q < e := lt_of_zpow_le_of_lt hlow h
  obtain ⟨c, hc, hnum, hden⟩ := exists_common_denominator q (tenLog q + 1)
  have hnatural : 4096 * powerNum q (tenLog q + 1) < 4095 * powerDen q (tenLog q + 1) := by
    obtain ⟨t, rfl⟩ : ∃ t : ℕ, q = t - 45 := ⟨(q + 45).toNat, by omega⟩
    exact powers_differ t (by omega)
  have hdiffer : 4096 * ((10 : ℚ) ^ q * c) < 4095 * (2 ^ (tenLog q + 1) * c) := by
    rw [hnum, hden]
    exact_mod_cast hnatural
  have hstep : (2 : ℚ) ^ (tenLog q + 1) ≤ 2 ^ e := zpow_le_zpow_right₀ (by norm_num) (by omega)
  calc 4096 * (10 : ℚ) ^ q < 4095 * 2 ^ (tenLog q + 1) := by
        refine lt_of_mul_lt_mul_right ?_ hc.le
        linarith
    _ ≤ 4095 * 2 ^ e := by gcongr

/-- **A short decimal is not next to the middle of two numbers** but in that middle, or else at a
distance beyond the errors of double precision. -/
theorem apart_of_coarse {e q : ℤ} (he : -149 ≤ e) (he' : e ≤ 104) (hq : -45 ≤ q) (hq' : q ≤ 39)
    {digits k : ℕ} (hdigits : 0 < digits) (hcoarse : (2 : ℚ) ^ e ≤ 10 ^ q)
    (hbelow : digits * (10 : ℚ) ^ q < 2 ^ (e + 24)) (hk : k < 2 ^ 25) :
    3 * (k * (2 : ℚ) ^ (e - 1)) < 2 ^ 53 * |(digits : ℚ) * 10 ^ q - k * 2 ^ (e - 1)| ∨
      (digits * (10 : ℚ) ^ q = k * (2 : ℚ) ^ (e - 1) ∧ q.natAbs ≤ 22) ∨
      (k = 22841339 ∧ (e = -107 ∨ e = -106)) := by
  have htwo : (2 : ℚ) ≠ 0 := by norm_num
  have hfew : digits ≤ 2 ^ 24 := by
    have : (digits : ℚ) * 2 ^ e ≤ 2 ^ 24 * 2 ^ e := by
      calc (digits : ℚ) * 2 ^ e ≤ digits * 10 ^ q := by gcongr
        _ ≤ 2 ^ (e + 24) := hbelow.le
        _ = 2 ^ 24 * 2 ^ e := by
          rw [zpow_add₀ htwo, mul_comm]
          norm_cast
    exact_mod_cast le_of_mul_le_mul_right this (by positivity)
  have hapart : PowersApart q (e - 1) := by
    obtain ⟨hlow, hhigh⟩ := tenLog_spec q
    have hle : e < tenLog q + 1 := lt_of_zpow_le_of_lt hcoarse hhigh
    have hlt : tenLog q < e + 24 := by
      refine lt_of_zpow_le_of_lt hlow (lt_of_le_of_lt ?_ hbelow)
      exact le_mul_of_one_le_left (by positivity) (by exact_mod_cast hdigits)
    obtain ⟨s, hs⟩ : ∃ s : ℕ, e = tenLog q - s := ⟨(tenLog q - e).toNat, by omega⟩
    rw [hs]
    obtain ⟨t, rfl⟩ : ∃ t : ℕ, q = t - 45 := ⟨(q + 45).toNat, by omega⟩
    exact powersApart t (by omega) s (by omega) (by omega) (by omega)
  obtain ⟨hencloses, hlow, hhigh⟩ := hapart
  obtain ⟨c, hc, hnum, hden⟩ := exists_common_denominator q (e - 1)
  have hdistance : (((digits * powerNum q (e - 1) - k * powerDen q (e - 1) : ℤ)) : ℚ) =
      (digits * 10 ^ q - k * 2 ^ (e - 1)) * c := by
    push_cast
    rw [← hnum, ← hden]
    ring
  rcases hencloses.clear (hlow.imp_right (·.2)) (hhigh.imp_right fun h => ⟨by omega, h.2.2⟩)
    hdigits hfew hk with hclear | ⟨heq, hzero⟩ | ⟨heq, hnear⟩
  · left
    have hclear' : (3 * k * powerDen q (e - 1) : ℚ) <
        2 ^ 53 * |((digits * powerNum q (e - 1) - k * powerDen q (e - 1) : ℤ) : ℚ)| := by
      exact_mod_cast hclear
    rw [hdistance, abs_mul, abs_of_pos hc, ← hden] at hclear'
    refine lt_of_mul_lt_mul_right ?_ hc.le
    linarith
  · right; left
    have heq' : (digits * powerNum q (e - 1) : ℚ) = k * powerDen q (e - 1) := by
      exact_mod_cast heq
    rw [← hnum, ← hden, ← mul_assoc, ← mul_assoc] at heq'
    refine ⟨mul_right_cancel₀ hc.ne' heq', ?_⟩
    rcases hlow with hclear | ⟨hsmall, -⟩
    · have hnone : ¬ Bracket.Clear (powerBracket q (e - 1)).lowNum (powerDen q (e - 1)) 0 :=
        Nat.not_lt_zero _
      rw [hzero] at hclear
      exact absurd hclear hnone
    · exact hsmall
  · right; right
    obtain ⟨hmiss, hexponent, -⟩ := hhigh.resolve_left hnear
    exact ⟨heq.trans hmiss, by omega⟩

end SoftKeyboard
