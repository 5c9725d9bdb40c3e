import Mathlib.Data.List.Count
import Mathlib.Data.List.TakeWhile
import SoftKeyboard.Surface.Presentation

/-!
# The label of the space bar

`SpacebarLabel.expected` is the rule that the label is meant to follow: the full locale where
another enabled subtype could be taken for the subtype.  The label counts the enabled subtypes alike
instead, the subtype itself among them if it is enabled, so that it follows the rule only where the
subtype is enabled once (`SpacebarLabel.forSubtype_eq_expected_iff` gives the exact condition).
-/

namespace SoftKeyboard

/-! ### Languages -/

namespace InputSubtype

/-- Whether a character ends the language of a locale. -/
def IsSeparator (c : Char) : Prop := c = '_' ∨ c = '-'

theorem not_isSeparator_iff (c : Char) : ¬ IsSeparator c ↔ (c ≠ '_' && c ≠ '-') = true := by
  simp [IsSeparator]

/-- The language is what stands before the first separator of the subtype's locale, or all of the
locale if there is none. -/
def Speaks (s : InputSubtype) (language : String) : Prop :=
  (∀ c ∈ language.toList, ¬ IsSeparator c) ∧
    (s.locale = language ∨
      ∃ c rest, IsSeparator c ∧ s.locale.toList = language.toList ++ c :: rest)

theorem language_eq_iff (s : InputSubtype) (language : String) :
    s.language = language ↔ s.Speaks language := by
  simp only [Speaks, not_isSeparator_iff]
  constructor
  · rintro rfl
    rw [InputSubtype.language, String.toList_ofList]
    refine ⟨fun c hc => List.mem_takeWhile_imp (p := fun c => c ≠ '_' && c ≠ '-') hc, ?_⟩
    have hsplit := List.takeWhile_append_dropWhile (p := fun c => c ≠ '_' && c ≠ '-')
      (l := s.locale.toList)
    cases hrest : s.locale.toList.dropWhile fun c => c ≠ '_' && c ≠ '-' with
    | nil =>
      rw [hrest, List.append_nil] at hsplit
      exact .inl (by rw [hsplit, String.ofList_toList])
    | cons c rest =>
      have hc := List.head?_dropWhile_not (fun c => c ≠ '_' && c ≠ '-') s.locale.toList
      rw [hrest] at hc hsplit
      have hseparator : IsSeparator c := by
        rw [← not_not (a := IsSeparator c), not_isSeparator_iff]
        exact Bool.eq_false_iff.1 hc
      exact .inr ⟨c, rest, hseparator, hsplit.symm⟩
  · rintro ⟨hlanguage, hlocale⟩
    have htake : s.locale.toList.takeWhile (fun c => c ≠ '_' && c ≠ '-') = language.toList := by
      rcases hlocale with hlocale | ⟨c, rest, hc, hlocale⟩
      · rw [hlocale]
        exact List.takeWhile_eq_self_iff.2 hlanguage
      · rw [hlocale, List.takeWhile_append_of_pos hlanguage, List.takeWhile_cons_of_neg,
          List.append_nil]
        exact fun h => (not_isSeparator_iff c).2 h hc
    rw [InputSubtype.language, htake, String.ofList_toList]

/-- Whether another subtype could be taken for this one: they have one language and one layout. -/
def IsRivalOf (other s : InputSubtype) : Prop :=
  other ≠ s ∧ other.language = s.language ∧ other.layout = s.layout

instance (other s : InputSubtype) : Decidable (other.IsRivalOf s) :=
  inferInstanceAs (Decidable (_ ∧ _))

end InputSubtype

/-! ### The rule -/

namespace SpacebarLabel

/-- The rule for the label: the full locale for a subtype without language; no label for a subtype
that is alone and in the system's language; the full locale if another enabled subtype could be
taken for it; the language otherwise. -/
def expected (s : InputSubtype) (settings : Settings) : SpacebarLabel :=
  if s.language = "zz" then .fullLocale
  else if settings.enabledSubtypes.length ≤ 1 ∧ settings.systemLanguage = s.language then .none
  else if ∃ other ∈ settings.enabledSubtypes, other.IsRivalOf s then .fullLocale
  else .languageOnly

/-- The enabled subtypes that could be taken for the given one. -/
def rivals (s : InputSubtype) (settings : Settings) : List InputSubtype :=
  settings.enabledSubtypes.filter fun other => other.IsRivalOf s

theorem exists_isRivalOf_iff (s : InputSubtype) (settings : Settings) :
    (∃ other ∈ settings.enabledSubtypes, other.IsRivalOf s) ↔ 0 < (rivals s settings).length := by
  simp [rivals, List.length_pos_iff_exists_mem]

/-! ### The count -/

/-- The enabled subtypes with the language and the layout of a subtype are itself, as often as it is
enabled, and its rivals. -/
theorem length_alike (s : InputSubtype) (enabled : List InputSubtype) :
    (enabled.filter fun other => other.language = s.language && other.layout = s.layout).length =
      enabled.count s + (enabled.filter fun other => other.IsRivalOf s).length := by
  induction enabled with
  | nil => rfl
  | cons other enabled ih =>
    by_cases hself : other = s
    · simp [InputSubtype.IsRivalOf, hself] at ih ⊢
      omega
    · by_cases halike : other.language = s.language ∧ other.layout = s.layout
      · simp [InputSubtype.IsRivalOf, hself, halike] at ih ⊢
        omega
      · simp [InputSubtype.IsRivalOf, hself, halike] at ih ⊢
        omega

/-- Where neither the language nor being alone decides, the label counts. -/
theorem forSubtype_of_count {s : InputSubtype} {settings : Settings} (hnone : s.language ≠ "zz")
    (halone : ¬ (settings.enabledSubtypes.length ≤ 1 ∧ settings.systemLanguage = s.language)) :
    forSubtype s settings =
      if 1 < settings.enabledSubtypes.count s + (rivals s settings).length then .fullLocale
      else .languageOnly := by
  have halone' : ¬ (settings.enabledSubtypes.length < 2 ∧ settings.systemLanguage = s.language) :=
    fun h => halone ⟨by omega, h.2⟩
  unfold forSubtype
  rw [if_neg (by simpa [InputSubtype.hasNoLanguage] using hnone), if_neg (by simpa using halone')]
  dsimp only
  rw [length_alike]
  rfl

/-- Of two enabled subtypes with one layout whose locales differ behind the language only, each has
the full locale on its label. -/
theorem forSubtype_of_speaks {s other : InputSubtype} {settings : Settings} {language : String}
    (hs : s ∈ settings.enabledSubtypes) (hother : other ∈ settings.enabledSubtypes)
    (hne : other ≠ s) (hlayout : other.layout = s.layout) (hspeaks : s.Speaks language)
    (hspeaks' : other.Speaks language) : forSubtype s settings = .fullLocale := by
  by_cases hnone : s.language = "zz"
  · simp [forSubtype, InputSubtype.hasNoLanguage, hnone]
  have hlanguage : other.language = s.language := by
    rw [(other.language_eq_iff language).2 hspeaks', (s.language_eq_iff language).2 hspeaks]
  have hself : 0 < settings.enabledSubtypes.count s := List.count_pos_iff.2 hs
  have hrival : 0 < (rivals s settings).length :=
    (exists_isRivalOf_iff s settings).1 ⟨other, hother, hne, hlanguage, hlayout⟩
  have halone : ¬ (settings.enabledSubtypes.length ≤ 1 ∧
      settings.systemLanguage = s.language) := by
    rintro ⟨hlength, -⟩
    have hcount := length_alike s settings.enabledSubtypes
    have hfilter := List.length_filter_le
      (fun other => other.language = s.language && other.layout = s.layout)
      settings.enabledSubtypes
    unfold rivals at hrival
    omega
  rw [forSubtype_of_count hnone halone, if_pos (by omega)]

/-- **The label follows the rule exactly** where the subtype has no language, or is alone and in the
system's language, or is enabled at most once if it has no rival and at least once if it has one. -/
theorem forSubtype_eq_expected_iff (s : InputSubtype) (settings : Settings) :
    forSubtype s settings = expected s settings ↔
      s.language = "zz" ∨
        (settings.enabledSubtypes.length ≤ 1 ∧ settings.systemLanguage = s.language) ∨
        ((rivals s settings).length = 0 → settings.enabledSubtypes.count s ≤ 1) ∧
          ((rivals s settings).length = 1 → 1 ≤ settings.enabledSubtypes.count s) := by
  by_cases hnone : s.language = "zz"
  · simp [forSubtype, expected, InputSubtype.hasNoLanguage, hnone]
  by_cases halone : settings.enabledSubtypes.length ≤ 1 ∧ settings.systemLanguage = s.language
  · have hlt : settings.enabledSubtypes.length < 2 := by omega
    simp [forSubtype, expected, InputSubtype.hasNoLanguage, hnone, halone, hlt]
  -- In what is left, the label counts and the rule looks for a rival.
  have hlabel := forSubtype_of_count hnone halone
  have hrule : expected s settings =
      if 0 < (rivals s settings).length then .fullLocale else .languageOnly := by
    simp only [expected, hnone, halone, if_false, exists_isRivalOf_iff]
  rw [hlabel, hrule, or_iff_right hnone, or_iff_right halone]
  split_ifs with hcount hrival hrival
  · exact iff_of_true rfl ⟨by omega, by omega⟩
  · exact iff_of_false (by decide) fun h => by have := h.1; omega
  · exact iff_of_false (by decide) fun h => by have := h.2; omega
  · exact iff_of_true rfl ⟨by omega, by omega⟩

/-- A rival of a subtype that is not enabled itself goes unnoticed: the label of British English
says no more than the language where American English and French are enabled. -/
theorem languageOnly_of_absent :
    let settings : Settings := { enabledSubtypes := [⟨"en_US", "qwerty"⟩, ⟨"fr_FR", "azerty"⟩] }
    (⟨"en_US", "qwerty"⟩ : InputSubtype).IsRivalOf ⟨"en_GB", "qwerty"⟩ ∧
      forSubtype ⟨"en_GB", "qwerty"⟩ settings = .languageOnly ∧
      expected ⟨"en_GB", "qwerty"⟩ settings = .fullLocale := by
  decide +kernel

end SpacebarLabel

end SoftKeyboard
