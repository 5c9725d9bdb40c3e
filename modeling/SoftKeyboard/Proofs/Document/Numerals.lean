import Mathlib.Data.Fintype.Basic
import Mathlib.Tactic.FinCases
import SoftKeyboard.Document.Token

/-!
# How numerals are spelled

`Numeral.Spelled n cs` says that the characters `cs` are a spelling of the numeral `n`: the mark of
its exponent is of either case, and a positive exponent may have a sign.  The scanner reads every
spelling that nothing carries on with (`Token.numeral?_of_spelled`), and what it reads is a spelling
(`Token.spelled_of_numeral?`).
-/

namespace SoftKeyboard

/-! ### Digits -/

namespace Digit

@[simp]
theorem ofChar?_toChar (d : Digit) : ofChar? d.toChar = some d := by
  revert d
  decide

theorem toChar_of_ofChar? {c : Char} {d : Digit} (h : ofChar? c = some d) : d.toChar = c := by
  unfold ofChar? at h
  split_ifs at h with hc
  obtain rfl := Option.some.inj h
  have hlow : 48 ≤ c.toNat := by
    have := hc.1
    simpa [Char.le_def, UInt32.le_iff_toNat_le] using this
  show Char.ofNat (48 + (c.toNat - 48)) = c
  rw [Nat.add_sub_cancel' hlow, Char.ofNat_toNat]

theorem toChar_eq_zero_iff (d : Digit) : d.toChar = '0' ↔ d = zero := by
  revert d
  decide

theorem toChar_ne_minus (d : Digit) : d.toChar ≠ '-' := by
  revert d
  decide

theorem toChar_ne_plus (d : Digit) : d.toChar ≠ '+' := by
  revert d
  decide

theorem ofNat_ne_nil (n : Nat) : ofNat n ≠ [] := by
  rw [ofNat]
  split <;> simp

theorem toNat_concat (digits : List Digit) (d : Digit) :
    toNat (digits ++ [d]) = 10 * toNat digits + d := by
  simp [toNat]

/-- The digits of a number show it. -/
@[simp]
theorem toNat_ofNat (n : Nat) : toNat (ofNat n) = n := by
  induction n using Nat.strong_induction_on with
  | _ n ih =>
    rw [ofNat]
    split
    · simp [toNat]
    · next h =>
      rw [toNat_concat, ih (n / 10) (by omega)]
      exact Nat.div_add_mod n 10

/-- Only the digits of zero start with a zero. -/
theorem eq_zero_of_ofNat_eq {n : Nat} {rest : List Digit} (h : ofNat n = zero :: rest) : n = 0 := by
  induction n using Nat.strong_induction_on generalizing rest with
  | _ n ih =>
    rw [ofNat] at h
    split at h
    · exact congrArg Fin.val (List.cons.inj h).1
    · next hn =>
      obtain ⟨d, ds, hds⟩ := List.exists_cons_of_ne_nil (ofNat_ne_nil (n / 10))
      rw [hds] at h
      have hd : d = zero := (List.cons.inj h).1
      have := ih (n / 10) (by omega) (hd ▸ hds)
      omega

theorem ofNat_zero : ofNat 0 = [zero] := by
  rw [ofNat]
  rfl

end Digit

/-! ### Numerals -/

namespace Numeral

/-- Whether a list of digits may stand before the point: there is one, and a zero stands alone. -/
def IsWhole (digits : List Digit) : Prop :=
  digits ≠ [] ∧ ∀ rest, digits = .zero :: rest → rest = []

/-- Whether a text can hold the numeral as it is. -/
structure WellFormed (n : Numeral) : Prop where
  whole : IsWhole n.whole
  exponent : ∀ negative digits, n.exponent = some (negative, digits) → digits ≠ []

theorem isWhole_zero : IsWhole [.zero] :=
  ⟨List.cons_ne_nil _ _, fun _ h => (List.cons.inj h).2.symm⟩

theorem isWhole_cons {d : Digit} (hd : d ≠ .zero) (ds : List Digit) : IsWhole (d :: ds) :=
  ⟨List.cons_ne_nil d ds, fun _ h => absurd (List.cons.inj h).1 hd⟩

theorem isWhole_ofNat (n : Nat) : IsWhole (Digit.ofNat n) := by
  refine ⟨Digit.ofNat_ne_nil n, fun rest h => ?_⟩
  obtain rfl := Digit.eq_zero_of_ofNat_eq h
  rw [Digit.ofNat_zero] at h
  exact (List.cons.inj h).2.symm

/-- A numeral without exponent is well formed if its whole part is. -/
theorem wellFormed_plain {negative : Bool} {whole fraction : List Digit} (h : IsWhole whole) :
    WellFormed ⟨negative, whole, fraction, none⟩ :=
  ⟨h, fun _ _ h => nomatch h⟩

theorem wellFormed_ofNat (n : Nat) : (ofNat n).WellFormed := wellFormed_plain (isWhole_ofNat n)

/-- The characters of a fraction. -/
def fractionChars (ds : List Digit) : List Char :=
  if ds.isEmpty then [] else '.' :: ds.map Digit.toChar

/-- Whether characters spell an exponent: a mark of either case, a sign, which only a negative
exponent needs, and digits. -/
inductive ExponentSpelled : Option (Bool × List Digit) → List Char → Prop
  | none : ExponentSpelled none []
  | negative {mark : Char} {ds : List Digit} : mark = 'e' ∨ mark = 'E' → ds ≠ [] →
    ExponentSpelled (some (true, ds)) (mark :: '-' :: ds.map Digit.toChar)
  | signed {mark : Char} {ds : List Digit} : mark = 'e' ∨ mark = 'E' → ds ≠ [] →
    ExponentSpelled (some (false, ds)) (mark :: '+' :: ds.map Digit.toChar)
  | plain {mark : Char} {ds : List Digit} : mark = 'e' ∨ mark = 'E' → ds ≠ [] →
    ExponentSpelled (some (false, ds)) (mark :: ds.map Digit.toChar)

/-- Whether characters spell a numeral. -/
def Spelled (n : Numeral) (cs : List Char) : Prop :=
  IsWhole n.whole ∧ ∃ exponent, ExponentSpelled n.exponent exponent ∧
    cs = (if n.negative then ['-'] else []) ++ (n.whole.map Digit.toChar ++
      (fractionChars n.fraction ++ exponent))

/-- A numeral that a text can hold is spelled by what is rendered of it. -/
theorem spelled_render {n : Numeral} (h : n.WellFormed) : n.Spelled n.render := by
  obtain ⟨negative, whole, fraction, exponent⟩ := n
  have hexponent := h.exponent
  refine ⟨h.whole, ?_⟩
  match exponent with
  | none => exact ⟨[], .none, by simp [render, fractionChars]⟩
  | some (true, ds) =>
    exact ⟨_, .negative (.inl rfl) (hexponent true ds rfl), by simp [render, fractionChars]⟩
  | some (false, ds) =>
    exact ⟨_, .signed (.inl rfl) (hexponent false ds rfl), by simp [render, fractionChars]⟩

end Numeral

/-! ### Scanning -/

namespace Token

open Numeral (fractionChars ExponentSpelled)

/-- Whether a text does not carry on with a numeral that stands before it. -/
def Parts (rest : List Char) : Prop :=
  ∀ c ∈ rest.head?, Digit.ofChar? c = none ∧ c ≠ '.' ∧ c ≠ 'e' ∧ c ≠ 'E'

theorem parts_nil : Parts [] := fun _ h => nomatch h

/-- The digits of a text end where a character is none. -/
theorem digits_map_toChar (ds : List Digit) {rest : List Char}
    (h : ∀ c ∈ rest.head?, Digit.ofChar? c = none) :
    digits (ds.map Digit.toChar ++ rest) = (ds, rest) := by
  induction ds with
  | nil =>
    cases rest with
    | nil => rfl
    | cons c rest => simp [digits, h c rfl]
  | cons d ds ih => simp [digits, ih]

/-- The digits of a text and the rest make it up. -/
theorem map_toChar_digits (cs : List Char) :
    (digits cs).1.map Digit.toChar ++ (digits cs).2 = cs := by
  fun_induction digits cs with
  | case1 => rfl
  | case2 c cs d hd ds rest hdigits ih =>
    rw [hdigits] at ih
    rw [List.map_cons, List.cons_append, ih, Digit.toChar_of_ofChar? hd]
  | case3 c cs hc => rfl

theorem digits1?_map_toChar {ds : List Digit} (hds : ds ≠ []) {rest : List Char}
    (h : ∀ c ∈ rest.head?, Digit.ofChar? c = none) :
    digits1? (ds.map Digit.toChar ++ rest) = some (ds, rest) := by
  obtain ⟨d, ds, rfl⟩ := List.exists_cons_of_ne_nil hds
  rw [digits1?, digits_map_toChar _ h]

theorem eq_of_digits1? {cs rest : List Char} {ds : List Digit}
    (h : digits1? cs = some (ds, rest)) : ds ≠ [] ∧ cs = ds.map Digit.toChar ++ rest := by
  have hcs := map_toChar_digits cs
  unfold digits1? at h
  split at h
  · cases h
  · next hne =>
    have hdigits := Option.some.inj h
    rw [hdigits] at hcs hne
    exact ⟨fun hds => hne rest (by rw [hds]), hcs.symm⟩

theorem whole?_map_toChar {ds : List Digit} (hds : Numeral.IsWhole ds) {rest : List Char}
    (h : ∀ c ∈ rest.head?, Digit.ofChar? c = none) :
    whole? (ds.map Digit.toChar ++ rest) = some (ds, rest) := by
  obtain ⟨hne, hzero⟩ := hds
  obtain ⟨d, ds, rfl⟩ := List.exists_cons_of_ne_nil hne
  by_cases hd : d = .zero
  · subst hd
    obtain rfl := hzero ds rfl
    rfl
  · have hc : d.toChar ≠ '0' := fun hc => hd ((Digit.toChar_eq_zero_iff d).1 hc)
    rw [← digits1?_map_toChar hne h]
    simp [whole?, hc]

theorem eq_of_whole? {cs rest : List Char} {ds : List Digit} (h : whole? cs = some (ds, rest)) :
    Numeral.IsWhole ds ∧ cs = ds.map Digit.toChar ++ rest := by
  unfold whole? at h
  split at h
  · obtain ⟨rfl, rfl⟩ := Prod.mk.inj (Option.some.inj h)
    exact ⟨Numeral.isWhole_zero, rfl⟩
  · next hcs =>
    obtain ⟨hds, rfl⟩ := eq_of_digits1? h
    refine ⟨⟨hds, fun rest' hzero => ?_⟩, rfl⟩
    subst hzero
    exact absurd rfl (hcs (rest'.map Digit.toChar ++ rest))

theorem fraction?_fractionChars (ds : List Digit) {rest : List Char}
    (h : ∀ c ∈ rest.head?, Digit.ofChar? c = none ∧ c ≠ '.') :
    fraction? (fractionChars ds ++ rest) = some (ds, rest) := by
  cases ds with
  | nil =>
    cases rest with
    | nil => rfl
    | cons c rest => simp [fraction?, fractionChars, (h c rfl).2]
  | cons d ds => exact digits1?_map_toChar (List.cons_ne_nil d ds) fun c hc => (h c hc).1

theorem eq_of_fraction? {cs rest : List Char} {ds : List Digit}
    (h : fraction? cs = some (ds, rest)) : cs = fractionChars ds ++ rest := by
  unfold fraction? at h
  split at h
  · obtain ⟨hds, rfl⟩ := eq_of_digits1? h
    simp [fractionChars, hds]
  · obtain ⟨rfl, rfl⟩ := Prod.mk.inj (Option.some.inj h)
    rfl

theorem exponent?_of_spelled {exponent : Option (Bool × List Digit)} {cs : List Char}
    (hspelled : ExponentSpelled exponent cs) {rest : List Char} (h : Parts rest) :
    exponent? (cs ++ rest) = some (exponent, rest) := by
  have hrest : ∀ c ∈ rest.head?, Digit.ofChar? c = none := fun c hc => (h c hc).1
  cases hspelled with
  | none =>
    cases rest with
    | nil => rfl
    | cons c rest => simp [exponent?, h c rfl]
  | negative hmark hds => simp [exponent?, hmark, digits1?_map_toChar hds hrest]
  | signed hmark hds => simp [exponent?, hmark, digits1?_map_toChar hds hrest]
  | plain hmark hds =>
    have hscan := digits1?_map_toChar hds hrest
    obtain ⟨d, ds, rfl⟩ := List.exists_cons_of_ne_nil hds
    rw [List.map_cons, List.cons_append] at hscan
    -- The first digit is no sign, so that the scanner sees none.
    simp [exponent?, hmark, hscan, Digit.toChar_ne_minus, Digit.toChar_ne_plus]

theorem spelled_of_exponent? {cs rest : List Char} {exponent : Option (Bool × List Digit)}
    (h : exponent? cs = some (exponent, rest)) :
    ∃ spelling, ExponentSpelled exponent spelling ∧ cs = spelling ++ rest := by
  cases cs with
  | nil =>
    obtain ⟨rfl, rfl⟩ := Prod.mk.inj (Option.some.inj h)
    exact ⟨[], .none, rfl⟩
  | cons mark cs =>
    unfold exponent? at h
    by_cases hmark : mark = 'e' ∨ mark = 'E'
    · dsimp only at h
      rw [if_pos hmark] at h
      obtain ⟨⟨ds, rest'⟩, hdigits, heq⟩ := Option.map_eq_some_iff.1 h
      obtain ⟨rfl, rfl⟩ := Prod.mk.inj heq
      obtain ⟨hds, hcs⟩ := eq_of_digits1? hdigits
      split at hcs
      · exact ⟨_, .negative hmark hds, congrArg (mark :: '-' :: ·) hcs⟩
      · exact ⟨_, .signed hmark hds, congrArg (mark :: '+' :: ·) hcs⟩
      · exact ⟨_, .plain hmark hds, congrArg (mark :: ·) hcs⟩
    · dsimp only at h
      rw [if_neg hmark] at h
      obtain ⟨rfl, rfl⟩ := Prod.mk.inj (Option.some.inj h)
      exact ⟨[], .none, rfl⟩

/-- What spells an exponent starts with its mark. -/
theorem mem_head?_of_exponentSpelled {exponent : Option (Bool × List Digit)} {cs : List Char}
    (hspelled : ExponentSpelled exponent cs) {rest : List Char} (h : Parts rest) :
    ∀ c ∈ (cs ++ rest).head?, Digit.ofChar? c = none ∧ c ≠ '.' := by
  have hmarks : ∀ mark : Char, mark = 'e' ∨ mark = 'E' → Digit.ofChar? mark = none ∧ mark ≠ '.' := by
    rintro _ (rfl | rfl) <;> decide
  intro c hc
  cases hspelled with
  | none => exact ⟨(h c hc).1, (h c hc).2.1⟩
  | negative hmark | signed hmark | plain hmark =>
    obtain rfl := Option.some.inj hc
    exact hmarks _ hmark

/-- **Every spelling of a numeral is scanned as that numeral.** -/
theorem numeral?_of_spelled {n : Numeral} {cs : List Char} (hn : n.Spelled cs) {rest : List Char}
    (h : Parts rest) : numeral? (cs ++ rest) = some (n, rest) := by
  obtain ⟨negative, whole, fraction, exponent⟩ := n
  obtain ⟨hwhole, spelling, hspelling, rfl⟩ := hn
  -- What stands behind each part of the numeral, from the last part to the first.
  have hexponent : exponent? (spelling ++ rest) = some (exponent, rest) :=
    exponent?_of_spelled hspelling h
  have hbehind := mem_head?_of_exponentSpelled hspelling h
  have hfraction := fraction?_fractionChars fraction hbehind
  have hpoint : ∀ c ∈ (fractionChars fraction ++ (spelling ++ rest)).head?,
      Digit.ofChar? c = none := by
    cases fraction with
    | nil => exact fun c hc => (hbehind c hc).1
    | cons d ds => simp [fractionChars]; decide
  have hscan : whole? (whole.map Digit.toChar ++ _) = some (whole, _) :=
    whole?_map_toChar hwhole hpoint
  cases negative with
  | true => simp [numeral?, hscan, hfraction, hexponent]
  | false =>
    obtain ⟨d, ds, rfl⟩ := List.exists_cons_of_ne_nil hwhole.1
    have hd : d.toChar ≠ '-' := Digit.toChar_ne_minus d
    simp only [List.map_cons, List.cons_append] at hscan
    simp [numeral?, hd, hscan, hfraction, hexponent]

/-- **A numeral is scanned off one of its spellings.** -/
theorem spelled_of_numeral? {cs rest : List Char} {n : Numeral}
    (h : numeral? cs = some (n, rest)) : ∃ spelling, n.Spelled spelling ∧ cs = spelling ++ rest := by
  unfold numeral? at h
  obtain ⟨⟨whole, cs₁⟩, hwhole, h⟩ := Option.bind_eq_some_iff.1 h
  obtain ⟨⟨fraction, cs₂⟩, hfraction, h⟩ := Option.bind_eq_some_iff.1 h
  obtain ⟨⟨exponent, cs₃⟩, hexponent, h⟩ := Option.bind_eq_some_iff.1 h
  obtain ⟨rfl, rfl⟩ := Prod.mk.inj (Option.some.inj h)
  obtain ⟨hdigits, hcs⟩ := eq_of_whole? hwhole
  obtain rfl := eq_of_fraction? hfraction
  obtain ⟨spelling, hspelling, rfl⟩ := spelled_of_exponent? hexponent
  refine ⟨_, ⟨hdigits, spelling, hspelling, rfl⟩, ?_⟩
  split at hcs
  · dsimp only at hcs
    simp [hcs]
  · dsimp only at hcs
    simp [hcs]

end Token

end SoftKeyboard
