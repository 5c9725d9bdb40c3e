import SoftKeyboard.Proofs.Numeric.Scaling
import SoftKeyboard.Proofs.Numeric.Separation
import SoftKeyboard.Proofs.Numeric.Shortest

/-!
# Numbers are read back

The numeral that is written for a single-precision number is read as that number
(`Numeral.toSingle?_of_ofSingle?`), although it is read by way of double precision.  The shortest
decimal of a number is either much nearer to it than half a step, or on a grid so coarse that
nothing on it is near the ends of the interval that rounds to the number.
-/

namespace SoftKeyboard

open BinaryFormat (Attracts IsSingle attracts_of_abs_lt)

/-! ### What double precision does to a decimal -/

/-- Whether `y` is what double precision may make of `v`. -/
def Blurred (v y : ℚ) : Prop := |y - v| ≤ 5 / 2 * (v / 2 ^ 53)

/-- What is apart from a bound stays on its side of it. -/
theorem Blurred.side {v y bound : ℚ} (h : Blurred v y) (hbound : 0 < bound)
    (hapart : 3 * bound < 2 ^ 53 * |v - bound|) :
    (v ≤ bound → y < bound) ∧ (bound ≤ v → bound < y) := by
  obtain ⟨hlow, hhigh⟩ := abs_le.1 h
  constructor
  · intro hle
    rw [abs_of_nonpos (sub_nonpos.2 hle)] at hapart
    linarith
  · intro hge
    rw [abs_of_nonneg (sub_nonneg.2 hge)] at hapart
    linarith

/-- A decimal much nearer than half a step is still within half a step in double precision. -/
theorem Blurred.attracts_of_fine {x : Dyadic} {v y : ℚ} {q : ℤ} (h : Blurred v y) (hx : IsSingle x)
    (hq : -45 ≤ q) (hq' : q ≤ 39) (hfine : (10 : ℚ) ^ q < 2 ^ x.exponent)
    (hclose : |v - x.toRat| ≤ 10 ^ q / 2) : Attracts x y := by
  have hgap := lt_of_fine hq hq' hfine
  have hgrid : (0 : ℚ) < 2 ^ x.exponent := by positivity
  have hvalue : x.toRat ≤ 2 ^ 24 * 2 ^ x.exponent := by
    have : (x.significand : ℚ) ≤ 2 ^ 24 := by exact_mod_cast hx.significand_lt.le
    rw [Dyadic.toRat]
    gcongr
  have hv : v ≤ 2 ^ 25 * 2 ^ x.exponent := by linarith [(abs_le.1 hclose).2]
  refine attracts_of_abs_lt ?_
  calc |y - x.toRat| ≤ |y - v| + |v - x.toRat| := abs_sub_le _ _ _
    _ ≤ 5 / 2 * (v / 2 ^ 53) + 10 ^ q / 2 := add_le_add h hclose
    _ < 2 ^ x.exponent / 2 := by linarith

/-- The numbers on both sides of a middle that a short decimal all but meets, `22841339 · 2 ^ (-108)`
and `22841339 · 2 ^ (-107)`. -/
def Dyadic.NearMiss (x : Dyadic) : Prop :=
  (x.significand = 11420669 ∨ x.significand = 11420670) ∧ (x.exponent = -107 ∨ x.exponent = -106)

/-- A decimal on a coarse grid stays between the middles beside a number, or in one of them. -/
theorem Blurred.attracts_of_coarse {x : Dyadic} {d : Decimal} {y : ℚ} (h : Blurred d.toRat y)
    (hx : IsSingle x) (hmiss : ¬ x.NearMiss) (hpos : 0 < d.digits) (hq : -45 ≤ d.exponent)
    (hq' : d.exponent ≤ 39) (hcoarse : (2 : ℚ) ^ x.exponent ≤ 10 ^ d.exponent)
    (hattracts : Attracts x d.toRat)
    (hexact : d.exponent.natAbs ≤ 22 → ∀ (k : ℕ) (t : ℤ), k < 2 ^ 53 → d.toRat = k * 2 ^ t →
      y = d.toRat) : Attracts x y := by
  have hgrid : (0 : ℚ) < 2 ^ x.exponent := by positivity
  have hhalf : (2 : ℚ) ^ (x.exponent - 1) = 2 ^ x.exponent / 2 := zpow_sub_one₀ (by norm_num) _
  obtain ⟨hlow, hhigh⟩ := abs_le.1 hattracts.near
  have hm := hx.significand_lt
  have hm0 := hx.significand_pos
  have hbelow : d.digits * (10 : ℚ) ^ d.exponent < 2 ^ (x.exponent + 24) := hattracts.lt hx
  have hside (k : ℕ) (hk0 : 0 < k) (hk : k < 2 ^ 25)
      (hk' : k = 22841339 → ¬ (x.exponent = -107 ∨ x.exponent = -106)) :
      y = d.toRat ∨ (d.toRat ≤ k * 2 ^ (x.exponent - 1) → y < k * 2 ^ (x.exponent - 1)) ∧
        (k * 2 ^ (x.exponent - 1) ≤ d.toRat → k * 2 ^ (x.exponent - 1) < y) := by
    rcases apart_of_coarse hx.exponent_ge hx.exponent_le hq hq' hpos hcoarse hbelow hk with
      hapart | ⟨hmiddle, hsmall⟩ | ⟨hk1, he⟩
    · exact .inr (h.side (by positivity) hapart)
    · exact .inl (hexact hsmall k _ (by omega) hmiddle)
    · exact absurd he (hk' hk1)
  have hlowMiddle : ((2 * x.significand - 1 : ℕ) : ℚ) * 2 ^ (x.exponent - 1) =
      x.toRat - 2 ^ x.exponent / 2 := by
    rw [hhalf, Dyadic.toRat, Nat.cast_sub (by omega)]
    push_cast
    ring
  have hhighMiddle : ((2 * x.significand + 1 : ℕ) : ℚ) * 2 ^ (x.exponent - 1) =
      x.toRat + 2 ^ x.exponent / 2 := by
    rw [hhalf, Dyadic.toRat]
    push_cast
    ring
  rcases hside (2 * x.significand - 1) (by omega) (by omega)
      (fun hk he => hmiss ⟨by omega, he⟩) with heq | ⟨-, habove⟩
  · rw [heq]
    exact hattracts
  rcases hside (2 * x.significand + 1) (by omega) (by omega)
      (fun hk he => hmiss ⟨by omega, he⟩) with heq | ⟨hunder, -⟩
  · rw [heq]
    exact hattracts
  rw [hlowMiddle] at habove
  rw [hhighMiddle] at hunder
  refine attracts_of_abs_lt (abs_lt.2 ⟨?_, ?_⟩)
  · linarith [habove (by linarith)]
  · linarith [hunder (by linarith)]

/-! ### Shortest decimals -/

/-- A number with a step of the same size on both sides is read back from its shortest decimal. -/
theorem exists_double_shortest (negative : Bool) {x : Dyadic} (hx : IsSingle x)
    (hsymmetric : x.Symmetric) (hmiss : ¬ x.NearMiss) :
    ∃ y, (Numeral.ofDecimal negative (Single.shortest x)).toDouble? = some y ∧
      BinaryFormat.single.roundDyadic y = some x := by
  obtain ⟨hpos, hattracts, hq, hq', hgrid⟩ := Single.shortest_spec hx hsymmetric
  set d := Single.shortest x
  have hten : (10 : ℚ) ≠ 0 := by norm_num
  have hstep : (2 : ℚ) ^ x.exponent ≤ 10 ^ (d.exponent + 1) := by
    rcases hgrid with hcoarse | ⟨-, hle, -⟩
    · exact hcoarse.trans (zpow_le_zpow_right₀ (by norm_num) (by omega))
    · exact hle
  have hfew : d.digits < 2 ^ 53 := by
    have hscaled : (d.digits : ℚ) * 10 ^ d.exponent < 10 * 2 ^ 24 * 10 ^ d.exponent := by
      calc (d.digits : ℚ) * 10 ^ d.exponent < 2 ^ (x.exponent + 24) := hattracts.lt hx
        _ = 2 ^ 24 * 2 ^ x.exponent := by
          rw [zpow_add₀ (by norm_num), mul_comm]
          norm_cast
        _ ≤ 2 ^ 24 * 10 ^ (d.exponent + 1) := by gcongr
        _ = 10 * 2 ^ 24 * 10 ^ d.exponent := by
          rw [zpow_add_one₀ hten]
          ring
    have hdigits : (d.digits : ℚ) < 10 * 2 ^ 24 := lt_of_mul_lt_mul_right hscaled (by positivity)
    have : d.digits < 10 * 2 ^ 24 := by exact_mod_cast hdigits
    omega
  obtain ⟨y, hy, hblurred, hexact⟩ :=
    Numeral.exists_toDouble_ofDecimal negative hpos hfew (by omega)
  have hy' : Attracts x y.toRat := by
    rcases hgrid with hcoarse | ⟨hfine, -, hclose⟩
    · exact Blurred.attracts_of_coarse hblurred hx hmiss hpos hq hq' hcoarse hattracts hexact
    · exact Blurred.attracts_of_fine hblurred hx hq hq' hfine hclose
  refine ⟨y, hy, BinaryFormat.single_round_eq y.denominator_pos y.numerator_div_denominator hx ?_
    hy'⟩
  -- Half a step below a significand above the least one is still on the same grid.
  rcases hx.leading with he | hleading
  · exact .inl he
  by_cases he : x.exponent = -149
  · exact .inl he
  right
  have hlow := hx.exponent_ge
  have habove : 2 ^ 23 + 1 ≤ x.significand := by
    have hne : x.significand ≠ 2 ^ 23 := fun h => hsymmetric ⟨h, by omega⟩
    omega
  have habove' : (2 : ℚ) ^ 23 + 1 ≤ x.significand := by exact_mod_cast habove
  linarith [(abs_le.1 hy'.le_half).2]

theorem leading_read_back : ∀ i : ℕ, i < 253 →
    (Numeral.ofDecimal false (Single.shortest ⟨Single.leadingBit, i - 148⟩)).toDouble?.bind
      BinaryFormat.single.roundDyadic = some ⟨Single.leadingBit, i - 148⟩ := by
  decide +kernel

theorem nearMiss_read_back : ∀ m ∈ [11420669, 11420670], ∀ e ∈ [-107, -106],
    (Numeral.ofDecimal false (Single.shortest ⟨m, e⟩)).toDouble?.bind
      BinaryFormat.single.roundDyadic = some ⟨m, e⟩ := by
  decide +kernel

/-- The sign of a numeral does not matter to its magnitude. -/
theorem Numeral.toDouble?_ofDecimal_sign (negative : Bool) (x : Decimal) :
    (ofDecimal negative x).toDouble? = (ofDecimal false x).toDouble? := by
  unfold ofDecimal
  dsimp only
  split_ifs <;> rfl

/-- **Every number is read back from its shortest decimal.** -/
theorem toDouble?_shortest (negative : Bool) {x : Dyadic} (hx : IsSingle x) :
    (Numeral.ofDecimal negative (Single.shortest x)).toDouble?.bind
      BinaryFormat.single.roundDyadic = some x := by
  by_cases hsymmetric : x.Symmetric
  · by_cases hmiss : x.NearMiss
    · obtain ⟨m, e⟩ := x
      rw [Numeral.toDouble?_ofDecimal_sign]
      exact nearMiss_read_back m (by simpa using hmiss.1) e (by simpa using hmiss.2)
    · obtain ⟨y, hy, hround⟩ := exists_double_shortest negative hx hsymmetric hmiss
      rw [hy, Option.bind_some, hround]
  · obtain ⟨m, e⟩ := x
    obtain ⟨rfl, he⟩ : m = Single.leadingBit ∧ -149 < e := not_not.1 hsymmetric
    have he' : e ≤ 104 := hx.exponent_le
    rw [Numeral.toDouble?_ofDecimal_sign]
    obtain ⟨i, rfl⟩ : ∃ i : ℕ, e = i - 148 := ⟨(e + 148).toNat, by omega⟩
    exact leading_read_back i (by omega)

/-! ### Stored numbers -/

namespace Single

variable {x : Single} {negative : Bool} {m : Dyadic}

/-- Whether a single-precision number is finite. -/
def IsFinite (x : Single) : Prop := ∃ negative m, x.value = .finite negative m

instance : DecidablePred IsFinite := fun x =>
  match h : x.value with
  | .finite negative m => isTrue ⟨negative, m, h⟩
  | .infinite _ => isFalse fun ⟨_, _, hfinite⟩ => nomatch h.symm.trans hfinite
  | .nan => isFalse fun ⟨_, _, hfinite⟩ => nomatch h.symm.trans hfinite

theorem leadingBit_pos : 0 < leadingBit := by decide

theorem magnitudeBits_lt (x : Single) : x.magnitudeBits < 256 * leadingBit :=
  Nat.mod_lt _ (by decide)

theorem bits_eq (x : Single) :
    x.bits.toNat = x.magnitudeBits + if x.isNegative then signBit else 0 := by
  have hlt := x.bits.toNat_lt
  unfold magnitudeBits isNegative signBit
  split_ifs with h
  · simp only [decide_eq_true_eq] at h
    omega
  · simp only [decide_eq_true_eq] at h
    omega

/-- A finite number is stored with the sign and the bits of its magnitude. -/
theorem finite_spec (h : x.value = .finite negative m) :
    negative = x.isNegative ∧ encode m = x.magnitudeBits ∧ (m.significand ≠ 0 → IsSingle m) := by
  have hexponent : x.magnitudeBits / leadingBit < 256 :=
    (Nat.div_lt_iff_lt_mul leadingBit_pos).2 x.magnitudeBits_lt
  have hfraction : x.magnitudeBits % leadingBit < leadingBit := Nat.mod_lt _ leadingBit_pos
  rw [← Nat.div_add_mod x.magnitudeBits leadingBit]
  unfold value at h
  dsimp only at h
  generalize x.magnitudeBits / leadingBit = exponent at *
  generalize x.magnitudeBits % leadingBit = fraction at *
  split_ifs at h with hspecial hnan hsmall
  · -- No exponent: the significand is stored as it is.
    obtain ⟨rfl, rfl⟩ := Value.finite.inj h
    refine ⟨rfl, ?_, fun hpos => ⟨Nat.pos_of_ne_zero hpos, ?_, le_rfl, by norm_num, .inl rfl⟩⟩
    · rw [encode, if_pos hfraction, hsmall, mul_zero, zero_add]
    · exact hfraction.trans (by decide)
  · -- The leading bit is left out.
    obtain ⟨rfl, rfl⟩ := Value.finite.inj h
    refine ⟨rfl, ?_, fun _ => ⟨?_, ?_, ?_, ?_, .inr ?_⟩⟩
    · have hshift : ((exponent : ℤ) - 150 + 150).toNat = exponent := by omega
      rw [encode, if_neg (by simp), hshift, Nat.add_sub_cancel_left, mul_comm]
    · exact Nat.add_pos_left leadingBit_pos _
    · show leadingBit + fraction < 2 ^ 24
      have : leadingBit + leadingBit = 2 ^ 24 := by decide
      omega
    · show -149 ≤ (exponent : ℤ) - 150
      omega
    · show (exponent : ℤ) - 150 ≤ 104
      omega
    · exact Nat.le_add_right _ _

theorem ofMagnitudeBits_encode (h : x.value = .finite negative m) :
    ofMagnitudeBits negative (encode m) = x := by
  obtain ⟨rfl, hencode, -⟩ := finite_spec h
  rw [ofMagnitudeBits, hencode, ← bits_eq, UInt32.ofNat_toNat]

end Single

namespace Numeral

theorem isInteger_ofDecimal (negative : Bool) (x : Decimal) :
    (ofDecimal negative x).isInteger = false := by
  unfold ofDecimal
  dsimp only
  split_ifs with hwhole hpoint hzeros
  · rfl
  · -- The exponent is negative, so that digits are left behind the point.
    have hleft : (Digit.ofNat x.digits).drop ((Digit.ofNat x.digits).length + x.exponent).toNat ≠
        [] := by
      rw [Ne, List.drop_eq_nil_iff]
      omega
    simp [isInteger, hleft]
  · have hleft := Digit.ofNat_ne_nil x.digits
    simp [isInteger, hleft]
  · simp [isInteger]

theorem toSingle?_zero (negative : Bool) :
    toSingle? ⟨negative, [.zero], [.zero], none⟩ = some (Single.ofMagnitudeBits negative 0) := by
  cases negative <;> decide +kernel

theorem toSingle?_ofDecimal (negative : Bool) (x : Decimal) :
    (ofDecimal negative x).toSingle? =
      (ofDecimal negative x).toDouble?.map (Single.ofDyadic negative) := by
  have hsign : (ofDecimal negative x).negative = negative := by
    unfold ofDecimal
    dsimp only
    split_ifs <;> rfl
  unfold toSingle?
  dsimp only
  rw [isInteger_ofDecimal, hsign, if_neg fun h => Bool.false_ne_true h.1]

/-- The finite numbers are those that have a numeral. -/
theorem exists_ofSingle?_iff {x : Single} : (∃ n, ofSingle? x = some n) ↔ x.IsFinite := by
  unfold ofSingle? Single.IsFinite
  cases x.value with
  | nan => simp
  | infinite negative => simp
  | finite negative m =>
    dsimp only
    split_ifs <;> simp

/-- **Every finite number is read back from its numeral.** -/
theorem toSingle?_of_ofSingle? {x : Single} {n : Numeral} (h : ofSingle? x = some n) :
    n.toSingle? = some x := by
  unfold ofSingle? at h
  split at h
  · cases h
  · cases h
  · next negative m hvalue =>
    obtain ⟨-, -, hsingle⟩ := Single.finite_spec hvalue
    have hstored := Single.ofMagnitudeBits_encode hvalue
    split_ifs at h with hzero
    · obtain rfl := Option.some.inj h
      have hcode : Single.encode m = 0 := by
        rw [Single.encode, hzero, if_pos Single.leadingBit_pos]
      rw [hcode] at hstored
      rw [toSingle?_zero, hstored]
    · obtain rfl := Option.some.inj h
      obtain ⟨y, hy, hround⟩ :=
        Option.bind_eq_some_iff.1 (toDouble?_shortest negative (hsingle hzero))
      have hnearest : Single.ofDyadic negative y = x := by
        rw [BinaryFormat.roundDyadic] at hround
        rw [Single.ofDyadic, Single.ofQuotient, hround]
        exact hstored
      rw [toSingle?_ofDecimal, hy, Option.map_some, hnearest]

end Numeral

end SoftKeyboard
