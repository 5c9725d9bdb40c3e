import SoftKeyboard.Dispatcher

/-!
# Preparing a layout

A load derives a configuration and makes the layout match it (`Dispatcher.prepare`).  This has three
ends, with a lemma each.

* The layout has the configuration already: it stays (`Dispatcher.prepare_of_reuse`).
* The builder fails: nothing changes but the theme, which is bound by now, the count of layouts
  asked for and the reports (`Dispatcher.prepare_of_error`).
* The builder gives a layout: it takes the place of the one before (`Dispatcher.prepare_of_ok`).

In the first and the last case the texts follow the locale of the settings.
-/

namespace SoftKeyboard

namespace Dispatcher

variable {d : Dispatcher}

/-- The configuration that a dispatcher derives for an editor under settings. -/
def derived (env : Environment) (d : Dispatcher) (editor : Editor) (settings : Settings) :
    Configuration :=
  (d.configurationFor env editor settings).1

/-- Makes the layout match an editor under settings. -/
def prepare (env : Environment) (d : Dispatcher) (editor : Editor) (settings : Settings) :
    Except BuildError Unit × Dispatcher :=
  let (c, d) := d.configurationFor env editor settings
  d.install env c

/-- Whether no layout can be made to match an editor under settings without asking the builder. -/
def mustBuild (env : Environment) (d : Dispatcher) (editor : Editor) (settings : Settings) : Bool :=
  Configuration.needsRebuild d.configuration? (d.derived env editor settings)

/-- What the builder answers when it is asked for a layout for an editor under settings. -/
def built (env : Environment) (d : Dispatcher) (editor : Editor) (settings : Settings) :
    Except BuildError Layout :=
  env.build d.builds (d.derived env editor settings)

theorem exists_bindTheme_eq (env : Environment) (d : Dispatcher) (fallback : ThemeId) :
    ∃ theme notices, (d.bindTheme env fallback).2 = { d with theme, notices } := by
  unfold bindTheme
  split <;> exact ⟨_, _, rfl⟩

/-- Deriving a configuration binds a theme and reports; all else stays. -/
theorem exists_configurationFor_eq (env : Environment) (d : Dispatcher) (editor : Editor)
    (settings : Settings) :
    ∃ theme notices, d.configurationFor env editor settings =
      (d.derived env editor settings, { d with theme, notices }) := by
  obtain ⟨theme, notices, h⟩ := d.exists_bindTheme_eq env settings.theme
  refine ⟨theme, notices, ?_⟩
  rw [← h]
  rfl

/-! ### The three ends -/

theorem install_of_reuse (env : Environment) {c : Configuration}
    (h : Configuration.needsRebuild d.configuration? c = false) :
    ∃ notices, d.install env c =
      (.ok (), { d with texts := d.texts.setLocale c.subtype.locale, notices }) := by
  unfold install
  rw [h]
  exact ⟨_, rfl⟩

theorem install_of_error {env : Environment} {c : Configuration} {e : BuildError}
    (h : Configuration.needsRebuild d.configuration? c = true)
    (he : env.build d.builds c = .error e) :
    ∃ notices, d.install env c = (.error e, { d with builds := d.builds + 1, notices }) := by
  unfold install
  rw [h, he]
  exact ⟨_, rfl⟩

theorem install_of_ok {env : Environment} {c : Configuration} {layout : Layout}
    (h : Configuration.needsRebuild d.configuration? c = true)
    (hl : env.build d.builds c = .ok layout) :
    ∃ notices, d.install env c =
      (.ok (),
        { d with
          layout := some layout, texts := d.texts.setLocale c.subtype.locale,
          builds := d.builds + 1, notices }) := by
  unfold install
  rw [h, hl]
  exact ⟨_, rfl⟩

variable {env : Environment} {editor : Editor} {settings : Settings}

theorem prepare_of_reuse (h : d.mustBuild env editor settings = false) :
    ∃ theme notices, d.prepare env editor settings =
      (.ok (),
        { d with theme, texts := d.texts.setLocale settings.subtype.locale, notices }) := by
  obtain ⟨theme, notices, hc⟩ := d.exists_configurationFor_eq env editor settings
  obtain ⟨more, hi⟩ := install_of_reuse (d := { d with theme, notices }) env h
  unfold prepare
  rw [hc]
  exact ⟨theme, more, hi⟩

/-- **A failed build** leaves all that a user can see as it was. -/
theorem prepare_of_error {e : BuildError} (h : d.mustBuild env editor settings = true)
    (he : d.built env editor settings = .error e) :
    ∃ theme notices, d.prepare env editor settings =
      (.error e, { d with theme, builds := d.builds + 1, notices }) := by
  obtain ⟨theme, notices, hc⟩ := d.exists_configurationFor_eq env editor settings
  obtain ⟨more, hi⟩ := install_of_error (d := { d with theme, notices }) h he
  unfold prepare
  rw [hc]
  exact ⟨theme, more, hi⟩

theorem prepare_of_ok {layout : Layout} (h : d.mustBuild env editor settings = true)
    (hl : d.built env editor settings = .ok layout) :
    ∃ theme notices, d.prepare env editor settings =
      (.ok (),
        { d with
          theme, layout := some layout, texts := d.texts.setLocale settings.subtype.locale,
          builds := d.builds + 1, notices }) := by
  obtain ⟨theme, notices, hc⟩ := d.exists_configurationFor_eq env editor settings
  obtain ⟨more, hi⟩ := install_of_ok (d := { d with theme, notices }) h hl
  unfold prepare
  rw [hc]
  exact ⟨theme, more, hi⟩

/-- The layout that a load leads to unless the builder fails. -/
def loadedLayout? (env : Environment) (d : Dispatcher) (editor : Editor) (settings : Settings) :
    Option Layout :=
  if d.mustBuild env editor settings then (d.built env editor settings).toOption else d.layout

/-- **What preparing a layout does.**  It succeeds, and there is a layout and texts for the locale,
or the builder fails, and neither changes.  A theme is bound in either case. -/
theorem prepare_cases (env : Environment) (d : Dispatcher) (editor : Editor) (settings : Settings) :
    (d.loadedLayout? env editor settings ≠ none ∧
      ∃ theme builds notices, d.prepare env editor settings =
        (.ok (),
          { d with
            theme, layout := d.loadedLayout? env editor settings,
            texts := d.texts.setLocale settings.subtype.locale, builds, notices })) ∨
      ∃ e theme builds notices, d.prepare env editor settings =
        (.error e, { d with theme, builds, notices }) := by
  unfold loadedLayout?
  cases hm : d.mustBuild env editor settings with
  | false =>
    obtain ⟨theme, notices, hp⟩ := prepare_of_reuse hm
    refine .inl ⟨?_, theme, d.builds, notices, hp⟩
    -- the layout that is reused has the derived configuration
    have hc : d.configuration? = some (d.derived env editor settings) := by
      unfold mustBuild Configuration.needsRebuild at hm
      exact Decidable.of_not_not (of_decide_eq_false hm)
    intro hnone
    replace hnone : d.layout = none := hnone
    rw [configuration?, hnone] at hc
    cases hc
  | true =>
    cases hb : d.built env editor settings with
    | error e =>
      obtain ⟨theme, notices, hp⟩ := prepare_of_error hm hb
      exact .inr ⟨e, theme, d.builds + 1, notices, hp⟩
    | ok layout =>
      obtain ⟨theme, notices, hp⟩ := prepare_of_ok hm hb
      exact .inl ⟨fun h => (by cases h), theme, d.builds + 1, notices, hp⟩

end Dispatcher

end SoftKeyboard
