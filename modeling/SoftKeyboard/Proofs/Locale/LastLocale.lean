import Mathlib.Data.List.Induction
import SoftKeyboard.Locale.Texts

/-!
# What texts keep of past locales

The texts after a list of locales speak the language of the last one among them that is a language
tag (`Texts.language_after`).  A last locale that is no language tag therefore leaves the language of
an earlier one in place, and the texts forget the earlier ones exactly when the last one is a tag or
they had come back to English before it (`Texts.forgets_iff`).
-/

namespace SoftKeyboard

/-- The language that the labels have for a locale, if the locale is a language tag. -/
def Locale.spoken? (locale : String) : Option Language :=
  (languageOf locale).toOption.map Language.ofSubtag

theorem Locale.isSome_spoken?_iff (locale : String) :
    (spoken? locale).isSome ↔ ∃ language, languageOf locale = .ok language := by
  unfold spoken?
  cases languageOf locale <;> simp [Except.toOption]

namespace Texts

/-- The texts after locales were set one after the other. -/
def after (locales : List String) : Texts := locales.foldl setLocale {}

/-- The language of the last locale that is a language tag. -/
def lastSpoken? (locales : List String) : Option Language :=
  locales.reverse.findSome? Locale.spoken?

/-! ### One locale -/

/-- A locale sets its language, if it has one, and nothing else does. -/
theorem language_setLocale (t : Texts) (locale : String) :
    (t.setLocale locale).language = (Locale.spoken? locale).getD t.language := by
  unfold setLocale Locale.spoken?
  cases Locale.languageOf locale <;> rfl

/-- The tags of the languages tell texts apart. -/
theorem languages_eq_iff (t u : Texts) : t.languages = u.languages ↔ t.language = u.language := by
  obtain ⟨language⟩ := t
  obtain ⟨other⟩ := u
  cases language <;> cases other <;> decide

/-! ### Lists of locales -/

theorem after_concat (locales : List String) (locale : String) :
    after (locales ++ [locale]) = (after locales).setLocale locale :=
  List.foldl_append

theorem lastSpoken?_concat (locales : List String) (locale : String) :
    lastSpoken? (locales ++ [locale]) = (Locale.spoken? locale).or (lastSpoken? locales) := by
  rw [lastSpoken?, List.reverse_concat, List.findSome?_cons]
  cases Locale.spoken? locale <;> rfl

/-- **The last locale that is a language tag decides**, and without one the texts are English. -/
theorem language_after (locales : List String) :
    (after locales).language = (lastSpoken? locales).getD .english := by
  induction locales using List.reverseRecOn with
  | nil => rfl
  | append_singleton locales locale ih =>
    rw [after_concat, language_setLocale, ih, lastSpoken?_concat]
    cases Locale.spoken? locale <;> rfl

/-- **Texts speak the language of their last locale, or of the last one before it that is a language
tag.**  So they are those that the last locale alone would give exactly when it is a language tag, or
no locale before it was, or the last one that was is spoken in English. -/
theorem forgets_iff (locales : List String) (locale : String) :
    (after (locales ++ [locale])).language =
        (Locale.spoken? locale).getD ((lastSpoken? locales).getD .english) ∧
      (((after (locales ++ [locale])).languages = (after [locale]).languages ∧
          ∀ label, (after (locales ++ [locale])).text label = (after [locale]).text label) ↔
        (∃ language, Locale.languageOf locale = .ok language) ∨
          lastSpoken? locales = none ∨ lastSpoken? locales = some .english) := by
  have hlanguage : (after (locales ++ [locale])).language =
      (Locale.spoken? locale).getD ((lastSpoken? locales).getD .english) := by
    rw [after_concat, language_setLocale, language_after]
  have hfresh : (after [locale]).language = (Locale.spoken? locale).getD .english :=
    language_setLocale {} locale
  refine ⟨hlanguage, ?_⟩
  -- The labels follow the language, so that the tags alone decide.
  have htexts : ((after (locales ++ [locale])).languages = (after [locale]).languages ∧
      ∀ label, (after (locales ++ [locale])).text label = (after [locale]).text label) ↔
        (after (locales ++ [locale])).language = (after [locale]).language := by
    rw [languages_eq_iff]
    exact and_iff_left_of_imp fun h label => congrArg label.text h
  rw [htexts, hlanguage, hfresh, ← Locale.isSome_spoken?_iff]
  cases Locale.spoken? locale with
  | some language => simp
  | none =>
    cases lastSpoken? locales with
    | none => simp
    | some language => simp

/-- Russian stays where a locale that is no language tag follows it, though that locale alone gives
English. -/
theorem russian_stays :
    Locale.languageOf "not a locale!" = .error .invalidLanguage ∧
      (after ["ru_RU", "not a locale!"]).languages = ["ru", "en"] ∧
      (after ["ru_RU", "not a locale!"]).text .toAlphabet = "АБВ" ∧
      (after ["not a locale!"]).languages = ["en"] ∧
      (after ["not a locale!"]).text .toAlphabet = "ABC" := by
  decide +kernel

end Texts

end SoftKeyboard
