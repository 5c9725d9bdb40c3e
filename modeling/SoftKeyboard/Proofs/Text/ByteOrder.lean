import Mathlib.Data.String.Basic
import Mathlib.Tactic.SplitIfs

/-!
# The order of texts and of their bytes

Texts are ordered by the code points of their characters.  That is the order of their UTF-8 bytes
(`Text.le_iff_utf8_le`): the encodings of two characters differ first in a byte that is less for the
lesser character (`Text.utf8EncodeChar_append_lt`).
-/

namespace SoftKeyboard.Text

/-- The UTF-8 bytes of a text. -/
def utf8 (s : String) : List UInt8 := s.toUTF8.data.toList

theorem utf8_eq (s : String) : utf8 s = s.toList.flatMap String.utf8EncodeChar := by
  rw [utf8, String.toUTF8_eq_toByteArray, ← String.utf8Encode_toList]
  exact List.toList_data_toByteArray

/-! ### Characters -/

theorem ofNat_cons_lt_iff {m n : Nat} (hm : m < 256) (hn : n < 256) (as bs : List UInt8) :
    UInt8.ofNat m :: as < UInt8.ofNat n :: bs ↔ m < n ∨ m = n ∧ as < bs := by
  rw [List.cons_lt_cons_iff, UInt8.lt_iff_toNat_lt, ← UInt8.toNat_inj, UInt8.toNat_ofNat_of_lt' hm,
    UInt8.toNat_ofNat_of_lt' hn]

/-- The bytes of a lesser character come first, whatever follows either of the two. -/
theorem utf8EncodeChar_append_lt {c d : Char} (h : c < d) (as bs : List UInt8) :
    String.utf8EncodeChar c ++ as < String.utf8EncodeChar d ++ bs := by
  have hlt : c.toNat < d.toNat := h
  have hd : d.val.toNat < 0x110000 := by
    have : d.val.toNat < 0xd800 ∨ 0xdfff < d.val.toNat ∧ d.val.toNat < 0x110000 := d.valid
    omega
  rw [Char.toNat, Char.toNat] at hlt
  -- The first of the groups of six bits in which the two code points differ decides.
  have hgroups : c.val.toNat / 262144 < d.val.toNat / 262144 ∨
      c.val.toNat / 262144 = d.val.toNat / 262144 ∧ c.val.toNat / 4096 < d.val.toNat / 4096 ∨
      c.val.toNat / 4096 = d.val.toNat / 4096 ∧ c.val.toNat / 64 < d.val.toNat / 64 ∨
      c.val.toNat / 64 = d.val.toNat / 64 := by omega
  unfold String.utf8EncodeChar
  dsimp only
  split_ifs
  all_goals
    simp (disch := omega) only [List.cons_append, List.nil_append, ofNat_cons_lt_iff]
    rcases hgroups with h | h | h | h <;> omega

/-! ### Texts -/

theorem flatMap_utf8EncodeChar_lt {cs ds : List Char} (h : cs < ds) :
    cs.flatMap String.utf8EncodeChar < ds.flatMap String.utf8EncodeChar := by
  induction cs generalizing ds with
  | nil =>
    cases ds with
    | nil => exact absurd h (List.not_lt_nil _)
    | cons d ds =>
      obtain ⟨b, bs, hb⟩ := List.exists_cons_of_ne_nil (String.utf8EncodeChar_ne_nil (c := d))
      rw [List.flatMap_cons, hb]
      exact List.nil_lt_cons b _
  | cons c cs ih =>
    cases ds with
    | nil => exact absurd h (List.not_lt_nil _)
    | cons d ds =>
      rw [List.flatMap_cons, List.flatMap_cons]
      rcases List.cons_lt_cons_iff.1 h with hhead | ⟨rfl, htail⟩
      · exact utf8EncodeChar_append_lt hhead _ _
      · exact List.append_left_lt (ih htail)

theorem utf8_lt {s t : String} (h : s < t) : utf8 s < utf8 t := by
  rw [utf8_eq, utf8_eq]
  exact flatMap_utf8EncodeChar_lt h

/-- **Texts have the order of their UTF-8 bytes.** -/
theorem le_iff_utf8_le (s t : String) : s ≤ t ↔ utf8 s ≤ utf8 t := by
  constructor
  · intro h hlt
    by_cases hst : s = t
    · subst hst
      exact List.lt_irrefl _ hlt
    · have hlt' : s < t := String.not_le.1 fun hts => hst (String.le_antisymm h hts)
      exact List.lt_asymm hlt (utf8_lt hlt')
  · intro h
    exact String.not_lt.1 fun hlt => h (utf8_lt hlt)

end SoftKeyboard.Text
