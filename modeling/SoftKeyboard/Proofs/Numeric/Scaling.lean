import SoftKeyboard.Document.Numeral
import SoftKeyboard.Proofs.Document.Numerals
import SoftKeyboard.Proofs.Numeric.Rounding

/-!
# Decimals in double precision

The numeral of a decimal is read as its digits times a power of ten, which is applied in double
precision (`Numeral.toDouble?_ofDecimal`).  The result has a relative error below `3 · 2 ^ (-53)`,
one of the power and one of the product, and none at all when the power is small and double
precision has the number (`Numeral.exists_scaled`).
-/

namespace SoftKeyboard

open BinaryFormat (exists_double_round)

/-! ### Digits -/

namespace Digit

theorem foldl_eq (n : ℕ) (digits : List Digit) :
    digits.foldl (fun n d => 10 * n + d.val) n = n * 10 ^ digits.length + toNat digits := by
  unfold toNat
  induction digits generalizing n with
  | nil => simp
  | cons d rest ih =>
    rw [List.foldl_cons, ih, List.foldl_cons, ih (10 * 0 + d.val), List.length_cons]
    ring

theorem toNat_append (ds es : List Digit) :
    toNat (ds ++ es) = toNat ds * 10 ^ es.length + toNat es := by
  rw [toNat, List.foldl_append, foldl_eq]
  rfl

@[simp]
theorem toNat_replicate_zero (n : ℕ) : toNat (List.replicate n zero) = 0 := by
  induction n with
  | zero => rfl
  | succ n ih =>
    rw [List.replicate_succ', toNat_concat, ih]
    rfl

/-- Digits that fit in 64 bits are all appended. -/
theorem extend_eq {n : ℕ} {digits : List Digit}
    (h : n * 10 ^ digits.length + toNat digits < UInt64.size) :
    extend n digits = (n * 10 ^ digits.length + toNat digits, 0) := by
  rw [← foldl_eq] at h ⊢
  induction digits generalizing n with
  | nil => rfl
  | cons d rest ih =>
    have hgrows : 10 * n + d ≤ rest.foldl (fun n d => 10 * n + d.val) (10 * n + d) := by
      rw [foldl_eq]
      have : 0 < 10 ^ rest.length := by positivity
      nlinarith
    rw [List.foldl_cons] at h ⊢
    rw [extend, if_pos (hgrows.trans_lt h)]
    exact ih h

theorem length_ofNat_le {n k : ℕ} (h : n < 10 ^ (k + 1)) : (ofNat n).length ≤ k + 1 := by
  induction k generalizing n with
  | zero => rw [ofNat, dif_pos (by simpa using h), List.length_singleton]
  | succ k ih =>
    rw [ofNat]
    split
    · exact Nat.succ_le_succ (Nat.zero_le _)
    · have hlt : n / 10 < 10 ^ (k + 1) := by
        rw [Nat.div_lt_iff_lt_mul (by decide), ← pow_succ]
        exact h
      rw [List.length_append, List.length_singleton]
      exact Nat.succ_le_succ (ih hlt)

theorem lt_pow_length (digits : List Digit) : toNat digits < 10 ^ digits.length := by
  induction digits using List.reverseRecOn with
  | nil => decide
  | append_singleton ds d ih =>
    rw [toNat_concat, List.length_append, List.length_singleton, pow_succ]
    have := d.isLt
    omega

end Digit

/-! ### Powers of ten -/

namespace Numeral

/-- A power of ten has an error of one rounding, and none up to `10 ^ 22`. -/
theorem exists_powerOfTen {k : ℕ} (hk : k ≤ 60) :
    ∃ r, powerOfTen? k = some r ∧ |r.toRat - 10 ^ k| ≤ 10 ^ k / 2 ^ 53 ∧
      (k ≤ 22 → r.toRat = 10 ^ k) := by
  have hvalue : ((tenPower k : ℕ) : ℚ) / (1 : ℕ) = 10 ^ k := by
    rw [tenPower, Int.toNat_natCast]
    simp
  have hlow : (2 : ℚ) ^ (-1000 : ℤ) ≤ 10 ^ k := by
    calc (2 : ℚ) ^ (-1000 : ℤ) ≤ 1 := zpow_le_one_of_nonpos₀ (by norm_num) (by norm_num)
      _ ≤ 10 ^ k := one_le_pow₀ (by norm_num)
  have hhigh : (10 : ℚ) ^ k < 2 ^ (900 : ℤ) := by
    calc (10 : ℚ) ^ k ≤ 10 ^ 60 := pow_le_pow_right₀ (by norm_num) hk
      _ < 2 ^ (200 : ℤ) := by norm_num
      _ ≤ 2 ^ (900 : ℤ) := zpow_le_zpow_right₀ (by norm_num) (by norm_num)
  obtain ⟨r, hr, hnear, hexact⟩ := exists_double_round one_pos hvalue hlow hhigh
  refine ⟨r, hr, hnear, fun hsmall => hexact (5 ^ k) k ?_ ?_⟩
  · calc 5 ^ k ≤ 5 ^ 22 := Nat.pow_le_pow_right (by decide) hsmall
      _ < 2 ^ 53 := by norm_num
  · rw [zpow_natCast]
    push_cast
    rw [← mul_pow]
    norm_num

/-- Rounding what is already near a number adds its own error. -/
theorem exists_round_near {n d : ℕ} {v w : ℚ} (hd : 0 < d) (hw : (n : ℚ) / d = w)
    (hlow : (2 : ℚ) ^ (-900 : ℤ) ≤ v) (hhigh : v ≤ 2 ^ (800 : ℤ))
    (hnear : |w - v| ≤ 5 / 4 * (v / 2 ^ 53)) :
    ∃ y, BinaryFormat.double.round n d = some y ∧
      |y.toRat - v| ≤ 5 / 2 * (v / 2 ^ 53) ∧
      (w = v → ∀ (k : ℕ) (t : ℤ), k < 2 ^ 53 → v = k * 2 ^ t → y.toRat = v) := by
  have hv : 0 < v := lt_of_lt_of_le (by positivity) hlow
  obtain ⟨hbelow, habove⟩ := abs_le.1 hnear
  have htwo : (2 : ℚ) ≠ 0 := by norm_num
  have hwlow : (2 : ℚ) ^ (-1000 : ℤ) ≤ w := by
    calc (2 : ℚ) ^ (-1000 : ℤ) ≤ 2 ^ (-901 : ℤ) := zpow_le_zpow_right₀ (by norm_num) (by norm_num)
      _ = 2 ^ (-900 : ℤ) / 2 := by
        rw [div_eq_mul_inv, ← zpow_neg_one, ← zpow_add₀ htwo]
        norm_num
      _ ≤ v / 2 := by gcongr
      _ ≤ w := by linarith
  have hwhigh : w < 2 ^ (900 : ℤ) := by
    calc w ≤ 2 * v := by linarith
      _ ≤ 2 * 2 ^ (800 : ℤ) := by gcongr
      _ = 2 ^ (801 : ℤ) := by
        rw [← zpow_one_add₀ htwo]
        norm_num
      _ < 2 ^ (900 : ℤ) := zpow_lt_zpow_right₀ (by norm_num) (by norm_num)
  obtain ⟨y, hy, hround, hexact⟩ := exists_double_round hd hw hwlow hwhigh
  refine ⟨y, hy, ?_, ?_⟩
  · calc |y.toRat - v| ≤ |y.toRat - w| + |w - v| := abs_sub_le _ _ _
      _ ≤ w / 2 ^ 53 + 5 / 4 * (v / 2 ^ 53) := add_le_add hround hnear
      _ ≤ 5 / 2 * (v / 2 ^ 53) := by linarith
  · rintro rfl
    exact hexact

/-- Digits of up to 53 bits are a number of double precision. -/
theorem exists_double_digits {s : ℕ} (hs : 0 < s) (hs' : s < 2 ^ 53) :
    ∃ x, BinaryFormat.double.round s 1 = some x ∧ x.toRat = s := by
  have hvalue : (s : ℚ) / (1 : ℕ) = s := by rw [Nat.cast_one, div_one]
  have hs1 : (1 : ℚ) ≤ s := by exact_mod_cast hs
  have hlow : (2 : ℚ) ^ (-1000 : ℤ) ≤ s :=
    (zpow_le_one_of_nonpos₀ (by norm_num) (by norm_num)).trans hs1
  have hhigh : (s : ℚ) < 2 ^ (900 : ℤ) := by
    calc (s : ℚ) < 2 ^ (53 : ℤ) := by exact_mod_cast hs'
      _ ≤ 2 ^ (900 : ℤ) := zpow_le_zpow_right₀ (by norm_num) (by norm_num)
  obtain ⟨x, hx, -, hexact⟩ := exists_double_round one_pos hvalue hlow hhigh
  exact ⟨x, hx, hexact s 0 hs' (by simp)⟩

/-- Digits and a power of ten stay far from the ends of double precision. -/
theorem scaled_range {s : ℕ} (hs : 0 < s) (hs' : s < 2 ^ 53) {p : ℤ} (hp : p.natAbs ≤ 60) :
    (2 : ℚ) ^ (-900 : ℤ) ≤ s * 10 ^ p ∧ s * (10 : ℚ) ^ p ≤ 2 ^ (800 : ℤ) := by
  have hs1 : (1 : ℚ) ≤ s := by exact_mod_cast hs
  have hsmax : (s : ℚ) ≤ 2 ^ 53 := by exact_mod_cast hs'.le
  have hplow : (10 : ℚ) ^ (-60 : ℤ) ≤ 10 ^ p := zpow_le_zpow_right₀ (by norm_num) (by omega)
  have hphigh : (10 : ℚ) ^ p ≤ 10 ^ (60 : ℤ) := zpow_le_zpow_right₀ (by norm_num) (by omega)
  constructor
  · calc (2 : ℚ) ^ (-900 : ℤ) ≤ 2 ^ (-200 : ℤ) := zpow_le_zpow_right₀ (by norm_num) (by norm_num)
      _ ≤ 10 ^ (-60 : ℤ) := by norm_num
      _ ≤ 10 ^ p := hplow
      _ ≤ s * 10 ^ p := le_mul_of_one_le_left (by positivity) hs1
  · calc (s : ℚ) * 10 ^ p ≤ 2 ^ 53 * 10 ^ (60 : ℤ) := by gcongr
      _ ≤ 2 ^ (255 : ℤ) := by norm_num
      _ ≤ 2 ^ (800 : ℤ) := zpow_le_zpow_right₀ (by norm_num) (by norm_num)

/-- A number scaled by a power of ten in double precision. -/
theorem exists_scaled {s : ℕ} (hs : 0 < s) (hs' : s < 2 ^ 53) {p : ℤ} (hp : p.natAbs ≤ 60) :
    ∃ y, ((BinaryFormat.double.round s 1).bind fun x => scale? 4 x p) = some y ∧
      |y.toRat - s * 10 ^ p| ≤ 5 / 2 * (s * 10 ^ p / 2 ^ 53) ∧
      (p.natAbs ≤ 22 → ∀ (k : ℕ) (t : ℤ), k < 2 ^ 53 → (s : ℚ) * 10 ^ p = k * 2 ^ t →
        y.toRat = s * 10 ^ p) := by
  obtain ⟨hlow, hhigh⟩ := scaled_range hs hs' hp
  obtain ⟨x, hx, hxs⟩ := exists_double_digits hs hs'
  obtain ⟨r, hr, hrnear, hrexact⟩ := exists_powerOfTen hp
  rw [hx, Option.bind_some, scale?, if_pos (by omega), hr]
  dsimp only [Option.bind_eq_bind, Option.bind_some]
  have htenpos : (0 : ℚ) < 10 ^ p.natAbs := by positivity
  have hspos : (0 : ℚ) < s := by exact_mod_cast hs
  generalize hten : (10 : ℚ) ^ p.natAbs = ten at hrnear hrexact htenpos
  split_ifs with hsign
  · have hpower : (10 : ℚ) ^ p = ten := by
      rw [← hten, ← zpow_natCast, Int.natAbs_of_nonneg hsign]
    have hvalue : ((x.mul r).numerator : ℚ) / (x.mul r).denominator = s * r.toRat := by
      rw [Dyadic.numerator_div_denominator, Dyadic.toRat_mul, hxs]
    have hnear : |s * r.toRat - s * 10 ^ p| ≤ 5 / 4 * (s * 10 ^ p / 2 ^ 53) := by
      rw [hpower, ← mul_sub, abs_mul, abs_of_pos hspos]
      calc s * |r.toRat - ten| ≤ s * (5 / 4 * (ten / 2 ^ 53)) := by
            gcongr
            linarith only [hrnear, htenpos]
        _ = _ := by ring
    obtain ⟨y, hy, hynear, hyexact⟩ :=
      exists_round_near (Dyadic.denominator_pos _) hvalue hlow hhigh hnear
    exact ⟨y, hy, hynear, fun hsmall => hyexact (by rw [hrexact hsmall, hpower])⟩
  · have hpower : (10 : ℚ) ^ p = ten⁻¹ := by
      rw [← hten, ← zpow_natCast, ← zpow_neg, Int.ofNat_natAbs_of_nonpos (not_le.1 hsign).le,
        neg_neg]
    have hrlow := (abs_le.1 hrnear).1
    have hrpos : 0 < r.toRat := by linarith only [hrlow, htenpos]
    have hden : 0 < x.denominator * r.numerator :=
      Nat.mul_pos x.denominator_pos (r.numerator_pos_iff.2 hrpos)
    have hvalue : ((x.numerator * r.denominator : ℕ) : ℚ) / (x.denominator * r.numerator : ℕ) =
        s / r.toRat := by
      rw [← hxs, ← x.numerator_div_denominator, ← r.numerator_div_denominator]
      push_cast
      exact (div_div_div_eq _ _ _ _).symm
    have hnear : |s / r.toRat - s * 10 ^ p| ≤ 5 / 4 * (s * 10 ^ p / 2 ^ 53) := by
      have hquotient : s / r.toRat - s * 10 ^ p = s * 10 ^ p * ((ten - r.toRat) / r.toRat) := by
        rw [hpower]
        field_simp
      have hrelative : |r.toRat - ten| / r.toRat ≤ 5 / 4 / 2 ^ 53 := by
        rw [div_le_iff₀ hrpos]
        linarith only [hrnear, hrlow, htenpos]
      rw [hquotient, abs_mul, abs_of_pos (by positivity), abs_div, abs_of_pos hrpos, abs_sub_comm]
      calc s * 10 ^ p * (|r.toRat - ten| / r.toRat) ≤ s * 10 ^ p * (5 / 4 / 2 ^ 53) := by gcongr
        _ = _ := by ring
    obtain ⟨y, hy, hynear, hyexact⟩ := exists_round_near hden hvalue hlow hhigh hnear
    refine ⟨y, hy, hynear, fun hsmall => hyexact ?_⟩
    rw [hrexact hsmall, hpower, div_eq_mul_inv]

/-! ### Numerals -/

section Reading

variable {negative : Bool} {whole fraction : List Digit}

/-- The digits of a numeral are gathered from both sides of the point. -/
theorem extend_extend (h : Digit.toNat (whole ++ fraction) < UInt64.size) :
    Digit.extend 0 whole = (Digit.toNat whole, 0) ∧
      Digit.extend (Digit.toNat whole) fraction = (Digit.toNat (whole ++ fraction), 0) := by
  rw [Digit.toNat_append] at h ⊢
  have hwhole : 0 * 10 ^ whole.length + Digit.toNat whole < UInt64.size := by
    have : 0 < 10 ^ fraction.length := by positivity
    nlinarith
  refine ⟨?_, Digit.extend_eq h⟩
  rw [Digit.extend_eq hwhole, zero_mul, zero_add]

/-- How a numeral without exponent is read in double precision. -/
theorem toDouble?_plain (h : Digit.toNat (whole ++ fraction) < UInt64.size) :
    toDouble? ⟨negative, whole, fraction, none⟩ =
      (BinaryFormat.double.round (Digit.toNat (whole ++ fraction)) 1).bind fun x =>
        scale? 4 x (-fraction.length) := by
  obtain ⟨hwhole, hfraction⟩ := extend_extend h
  simp only [toDouble?, hwhole, hfraction, Nat.sub_zero, Nat.cast_zero, zero_sub]
  rfl

/-- How a numeral with an exponent is read in double precision. -/
theorem toDouble?_exponent {minus : Bool} {ds : List Digit}
    (h : Digit.toNat (whole ++ fraction) < UInt64.size) (hds : Digit.toNat ds < 2 ^ 31) :
    toDouble? ⟨negative, whole, fraction, some (minus, ds)⟩ =
      (BinaryFormat.double.round (Digit.toNat (whole ++ fraction)) 1).bind fun x =>
        scale? 4 x (-fraction.length + if minus then -(Digit.toNat ds : ℤ) else Digit.toNat ds) := by
  obtain ⟨hwhole, hfraction⟩ := extend_extend h
  have hsize : Digit.toNat ds < Int32.size / 2 := hds
  simp only [toDouble?, hwhole, hfraction, Nat.sub_zero, Nat.cast_zero, zero_sub, if_pos hsize]
  cases minus <;> rfl

end Reading

/-- **How the numeral of a decimal is read in double precision**: as digits and a power of ten, or
with one digit more when the fraction is the zero behind the point. -/
theorem toDouble?_ofDecimal (negative : Bool) {x : Decimal} (hpos : 0 < x.digits)
    (hdigits : x.digits < 2 ^ 53) (hexponent : x.exponent.natAbs ≤ 60) :
    ∃ (s : ℕ) (p : ℤ), (ofDecimal negative x).toDouble? =
        ((BinaryFormat.double.round s 1).bind fun y => scale? 4 y p) ∧
      0 < s ∧ s < 2 ^ 53 ∧ (s : ℚ) * 10 ^ p = x.toRat ∧
      (p = x.exponent ∨ p = -1) := by
  obtain ⟨digits, q⟩ := x
  dsimp only at *
  have hfits : digits < UInt64.size := lt_trans hdigits (by decide)
  have hlength : (Digit.ofNat digits).length ≤ 16 :=
    Digit.length_ofNat_le (k := 15) (lt_trans hdigits (by norm_num))
  have hlength0 : 0 < (Digit.ofNat digits).length :=
    List.length_pos_of_ne_nil (Digit.ofNat_ne_nil digits)
  have hread {whole fraction : List Digit} (h : whole ++ fraction = Digit.ofNat digits) :
      Digit.toNat (whole ++ fraction) = digits := by
    rw [h, Digit.toNat_ofNat]
  unfold ofDecimal
  dsimp only
  split_ifs with hwhole hpoint hzeros
  · -- The digits, zeros up to the point and one behind it.
    obtain ⟨k, rfl⟩ := Int.eq_ofNat_of_zero_le hwhole.1
    have hlt : digits * 10 ^ (k + 1) < 10 ^ 14 := by
      calc digits * 10 ^ (k + 1) < 10 ^ (Digit.ofNat digits).length * 10 ^ (k + 1) := by
            have := Digit.lt_pow_length (Digit.ofNat digits)
            rw [Digit.toNat_ofNat] at this
            gcongr
        _ = 10 ^ ((Digit.ofNat digits).length + (k + 1)) := (pow_add _ _ _).symm
        _ ≤ 10 ^ 14 := Nat.pow_le_pow_right (by decide) (by omega)
    have hsum : Digit.toNat (Digit.ofNat digits ++ List.replicate (k : ℤ).toNat .zero ++ [.zero]) =
        digits * 10 ^ (k + 1) := by
      rw [List.append_assoc, ← List.replicate_succ', Digit.toNat_append, Digit.toNat_ofNat,
        Digit.toNat_replicate_zero, List.length_replicate, Int.toNat_natCast, add_zero]
    refine ⟨digits * 10 ^ (k + 1), -1, ?_, by positivity, hlt.trans (by norm_num), ?_, .inr rfl⟩
    · rw [toDouble?_plain (by rw [hsum]; exact hlt.trans (by decide)), hsum]
      rfl
    · rw [Decimal.toRat, zpow_neg_one, zpow_natCast]
      push_cast
      rw [pow_succ]
      field_simp
  · -- The point falls among the digits.
    have hsum := hread (List.take_append_drop ((Digit.ofNat digits).length + q).toNat _)
    refine ⟨digits, q, ?_, hpos, hdigits, rfl, .inl rfl⟩
    rw [toDouble?_plain (by rwa [hsum]), hsum, List.length_drop]
    congr 2
    funext y
    congr 1
    omega
  · -- Zeros between the point and the digits.
    set zeros := (-((Digit.ofNat digits).length + q : ℤ)).toNat with hcount
    have hsum : Digit.toNat ([.zero] ++ (List.replicate zeros .zero ++ Digit.ofNat digits)) =
        digits := by
      rw [← List.append_assoc, List.singleton_append, ← List.replicate_succ, Digit.toNat_append,
        Digit.toNat_ofNat, Digit.toNat_replicate_zero, zero_mul, zero_add]
    refine ⟨digits, q, ?_, hpos, hdigits, rfl, .inl rfl⟩
    rw [toDouble?_plain (by rwa [hsum]), hsum, List.length_append, List.length_replicate]
    congr 2
    funext y
    congr 1
    omega
  · -- The point behind the first digit, and an exponent.
    have hsum := hread (List.take_append_drop 1 _)
    have hsmall :
        Digit.toNat (Digit.ofNat ((Digit.ofNat digits).length + q - 1 : ℤ).natAbs) < 2 ^ 31 := by
      rw [Digit.toNat_ofNat]
      omega
    refine ⟨digits, q, ?_, hpos, hdigits, rfl, .inl rfl⟩
    rw [toDouble?_exponent (by rwa [hsum]) hsmall, hsum, List.length_drop, Digit.toNat_ofNat]
    congr 2
    funext y
    congr 1
    rcases lt_or_ge ((Digit.ofNat digits).length + q - 1 : ℤ) 0 with hneg | hneg
    · rw [if_pos (decide_eq_true hneg)]
      omega
    · rw [if_neg (by simpa using hneg)]
      omega

/-- The numeral of a decimal is read in double precision with two errors at most, and exactly when
the exponent is small and double precision has the number. -/
theorem exists_toDouble_ofDecimal (negative : Bool) {x : Decimal} (hpos : 0 < x.digits)
    (hdigits : x.digits < 2 ^ 53) (hexponent : x.exponent.natAbs ≤ 60) :
    ∃ y, (ofDecimal negative x).toDouble? = some y ∧
      |y.toRat - x.toRat| ≤ 5 / 2 * (x.toRat / 2 ^ 53) ∧
      (x.exponent.natAbs ≤ 22 → ∀ (k : ℕ) (t : ℤ), k < 2 ^ 53 → x.toRat = k * 2 ^ t →
        y.toRat = x.toRat) := by
  obtain ⟨s, p, hread, hs, hs', hvalue, hp⟩ := toDouble?_ofDecimal negative hpos hdigits hexponent
  obtain ⟨y, hy, hnear, hexact⟩ := exists_scaled (p := p) hs hs' (by omega)
  rw [hvalue] at hnear hexact
  exact ⟨y, hread.trans hy, hnear, fun hsmall => hexact (by omega)⟩

end Numeral

end SoftKeyboard
