import SoftKeyboard.Proofs.Keyboard.Theming

/-!
# The theme after a failed build

A load derives the configuration that it wants from the bound theme, and binds the theme of its
settings if none is bound.  That comes before the builder is asked, so the theme stays bound when
the builder fails.

* `Keyboard.theme_perform_of_loadOf`: what theme is bound after a load, whatever its end.
* `Keyboard.SameThemes`: two keyboards with the same theme bound, and with views of the same
  numbers and themes, go on so under equal operations, whatever else they differ in.

So a failed build leaves the themes of all that follows alone exactly if a theme was bound before
(`Keyboard.theme_of_failed_build`).
-/

namespace SoftKeyboard

namespace Dispatcher

/-- What theme is bound after one was asked for, depends on the theme before alone. -/
theorem theme_updateTheme (env : Environment) (d : Dispatcher) (id : ThemeId) :
    (d.updateTheme env id).2.theme =
      if d.theme.any fun bound => bound.theme.id = (Theme.resolve id).id then d.theme
      else some ⟨Theme.resolve id, env.display⟩ := by
  dsimp only [updateTheme]
  split_ifs with h h' h'
  · rfl
  · exact absurd h h'
  · exact absurd h' h
  · rfl

theorem origins_createView (env : Environment) (d : Dispatcher) (hardwareAcceleration : Bool) :
    (d.createView env hardwareAcceleration).2.origins =
      d.origins ++ [(d.views.length + 1, (d.boundOr env d.live.theme).theme.name)] := by
  obtain ⟨bound, htheme, -, horigins⟩ := (attaches_createView env d hardwareAcceleration).origins
  rw [theme_createView] at htheme
  obtain rfl := Option.some.inj htheme
  exact horigins

end Dispatcher

namespace Keyboard

open Dispatcher

variable {σ : Type} {a : Assembly σ} {k k' : Keyboard σ} {operation : Operation}
  {request : LoadRequest} {settings : Settings}

/-! ### The theme after a load -/

theorem opening_of_loadOf (a : Assembly σ) (ho : k.loadOf operation = some (request, settings)) :
    opening a k operation =
      (k.dispatcher.prepare a.toEnvironment request.editor settings).2 := by
  unfold loadOf at ho
  split at ho
  · obtain ⟨rfl, rfl⟩ := Prod.mk.inj (Option.some.inj ho)
    rfl
  · rw [Option.ite_none_right_eq_some] at ho
    obtain ⟨hnone, ho⟩ := ho
    obtain ⟨rfl, rfl⟩ := Prod.mk.inj (Option.some.inj ho)
    exact if_pos hnone
  · cases ho

/-- **A load binds a theme**, that of its settings if none is bound, however it ends. -/
theorem theme_perform_of_loadOf (a : Assembly σ)
    (ho : k.loadOf operation = some (request, settings)) :
    (k.perform a operation).2.dispatcher.theme =
      some (k.dispatcher.boundOr a.toEnvironment settings.theme) := by
  rw [theme_perform, opening_of_loadOf a ho, theme_prepare]

/-- An operation that loads attaches no view. -/
theorem origins_perform_of_loadOf (a : Assembly σ)
    (ho : k.loadOf operation = some (request, settings)) :
    (k.perform a operation).2.dispatcher.origins = k.dispatcher.origins := by
  refine origins_perform_eq ?_
  rintro ⟨hardwareAcceleration, rfl⟩
  cases ho

/-! ### Keyboards with the same themes -/

/-- Two keyboards have the same theme bound, and views of the same numbers and themes. -/
structure SameThemes (k k' : Keyboard σ) : Prop where
  theme : k'.dispatcher.theme = k.dispatcher.theme
  bound : k.dispatcher.theme ≠ none
  origins : k'.dispatcher.origins = k.dispatcher.origins

namespace SameThemes

variable (h : k.SameThemes k')

include h

theorem boundOr_eq (env : Environment) (fallback fallback' : ThemeId) :
    k'.dispatcher.boundOr env fallback' = k.dispatcher.boundOr env fallback := by
  obtain ⟨bound, hb⟩ := Option.ne_none_iff_exists'.1 h.bound
  rw [boundOr_of_eq_some hb, boundOr_of_eq_some (h.theme.trans hb)]

/-- They want layouts for the same theme. -/
theorem wanted_eq (display : Display) (request : LoadRequest) (settings : Settings) :
    k'.wanted display request settings = k.wanted display request settings := by
  rw [wanted, wanted, h.theme]

/-- **Equal operations keep the themes the same**, whatever layouts the two keyboards have. -/
theorem perform (a : Assembly σ) (operation : Operation) :
    (k.perform a operation).2.SameThemes (k'.perform a operation).2 := by
  obtain ⟨bound, hb⟩ := Option.ne_none_iff_exists'.1 h.bound
  refine ⟨?_, theme_perform_ne_none h.bound operation, ?_⟩
  · by_cases ho : ∃ id, operation = .command (.updateTheme id)
    · -- what is asked for is compared with the theme that both have
      obtain ⟨id, rfl⟩ := ho
      rw [theme_perform, theme_perform]
      show (k'.dispatcher.updateTheme a.toEnvironment id).2.theme =
        (k.dispatcher.updateTheme a.toEnvironment id).2.theme
      rw [theme_updateTheme, theme_updateTheme, h.theme]
    · have hkept : ∀ k : Keyboard σ, ¬ChangesTheme a k operation :=
        fun _ ⟨id, hid, _⟩ => ho ⟨id, hid⟩
      rw [theme_perform_of_bound (h.theme.trans hb) (hkept k'),
        theme_perform_of_bound hb (hkept k)]
  · by_cases ho : ∃ hardwareAcceleration, operation = .command (.createView hardwareAcceleration)
    · -- the fresh views have the same number, and the theme that both have
      obtain ⟨hardwareAcceleration, rfl⟩ := ho
      have hlength : k'.dispatcher.views.length = k.dispatcher.views.length := by
        rw [← length_origins, ← length_origins, h.origins]
      show (k'.dispatcher.createView a.toEnvironment hardwareAcceleration).2.origins =
        (k.dispatcher.createView a.toEnvironment hardwareAcceleration).2.origins
      rw [origins_createView, origins_createView, hlength, h.origins,
        h.boundOr_eq a.toEnvironment k.dispatcher.live.theme]
    · have hnone : ∀ k : Keyboard σ, ¬AttachesView k operation := fun _ => ho
      rw [origins_perform_eq (hnone k'), origins_perform_eq (hnone k), h.origins]

theorem performAll (a : Assembly σ) (operations : List Operation) :
    (k.performAll a operations).SameThemes (k'.performAll a operations) := by
  induction operations generalizing k k' with
  | nil => exact h
  | cons operation operations ih => exact ih (h.perform a operation)

end SameThemes

/-! ### Failed builds -/

/-- **The theme after a failed build** is the one before exactly if there was one.  Then the failure
makes no difference to the theme of anything that comes later: the theme that is bound, the themes
of the views and of the layouts that are wanted are the same after equal operations.  But if no
theme was bound, the failed load leaves the theme of its own settings bound.  The view that is
attached next is for that theme instead of the one of the live settings, and the layout that is
loaded next is for that theme whatever its own settings say. -/
theorem theme_of_failed_build (a : Assembly σ) (k : Keyboard σ) (operation : Operation)
    {request : LoadRequest} {settings : Settings} {e : BuildError}
    (ho : k.loadOf operation = some (request, settings))
    (hm : k.dispatcher.mustBuild a.toEnvironment request.editor settings = true)
    (he : k.dispatcher.built a.toEnvironment request.editor settings = .error e) :
    let r := k.perform a operation
    r.1.error? = some (.build e) ∧
      (r.2.dispatcher.theme = k.dispatcher.theme ↔ k.dispatcher.theme ≠ none) ∧
      (k.dispatcher.theme ≠ none → ∀ operations,
        let k₁ := k.performAll a operations
        let k₂ := r.2.performAll a operations
        k₂.dispatcher.theme = k₁.dispatcher.theme ∧
          k₂.dispatcher.views.map Record.origin = k₁.dispatcher.views.map Record.origin ∧
          ∀ display request next,
            k₂.wanted display request next = k₁.wanted display request next) ∧
      (k.dispatcher.theme = none →
        r.2.dispatcher.theme = some ⟨Theme.resolve settings.theme, a.display⟩ ∧
          (∀ hardwareAcceleration,
            let attach := Operation.command (.createView hardwareAcceleration)
            let origins := k.dispatcher.views.map Record.origin
            let view := k.dispatcher.views.length + 1
            (k.perform a attach).2.dispatcher.views.map Record.origin =
                origins ++ [(view, (Theme.resolve k.dispatcher.live.theme).name)] ∧
              (r.2.perform a attach).2.dispatcher.views.map Record.origin =
                origins ++ [(view, (Theme.resolve settings.theme).name)]) ∧
          ∀ request next,
            k.wanted a.display request next =
                .derive ⟨Theme.resolve next.theme, a.display⟩ request.editor next ∧
              r.2.wanted a.display request next =
                .derive ⟨Theme.resolve settings.theme, a.display⟩ request.editor next) := by
  intro r
  have htheme : r.2.dispatcher.theme = some (k.dispatcher.boundOr a.toEnvironment settings.theme) :=
    theme_perform_of_loadOf a ho
  have horigins : r.2.dispatcher.origins = k.dispatcher.origins := origins_perform_of_loadOf a ho
  have hkept {bound : BoundTheme} (hb : k.dispatcher.theme = some bound) :
      r.2.dispatcher.theme = k.dispatcher.theme := by
    rw [htheme, boundOr_of_eq_some hb, hb]
  refine ⟨(undisturbed_of_build_error a k operation ho hm he).1, ?_, ?_, ?_⟩
  · constructor
    · intro h hnone
      rw [htheme, hnone] at h
      cases h
    · intro hne
      obtain ⟨bound, hb⟩ := Option.ne_none_iff_exists'.1 hne
      exact hkept hb
  · intro hne operations
    obtain ⟨bound, hb⟩ := Option.ne_none_iff_exists'.1 hne
    have hsame : k.SameThemes r.2 := ⟨hkept hb, hne, horigins⟩
    have hall := hsame.performAll a operations
    exact ⟨hall.theme, hall.origins, hall.wanted_eq⟩
  · intro hnone
    have hbound : ∀ fallback, k.dispatcher.boundOr a.toEnvironment fallback =
        ⟨Theme.resolve fallback, a.display⟩ := by
      intro fallback
      rw [boundOr, hnone, Option.getD_none]
    rw [hbound] at htheme
    refine ⟨htheme, fun hardwareAcceleration => ?_, fun request next => ?_⟩
    · have hlength : r.2.dispatcher.views.length = k.dispatcher.views.length := by
        rw [← length_origins, ← length_origins, horigins]
      have hview := origins_createView a.toEnvironment k.dispatcher hardwareAcceleration
      have hview' := origins_createView a.toEnvironment r.2.dispatcher hardwareAcceleration
      rw [hbound] at hview
      rw [boundOr_of_eq_some htheme, hlength, horigins] at hview'
      exact ⟨hview, hview'⟩
    · rw [wanted, wanted, hnone, htheme]
      exact ⟨rfl, rfl⟩

/-- A German layout in the oldest theme is not to be had.  A theme was bound, and the view that is
attached next is for that theme as well. -/
theorem theme_of_failed_build_when_bound :
    let a : Assembly Layer := ⟨.ofCatalog .bare {} false, .basic⟩
    let k := (start {} .alphabet).performAll a
      [.command (.createView false), .command (.load {} {})]
    let german : Settings := { theme := Theme.ics.id, subtype := ⟨"de_DE", "qwertz"⟩ }
    let r := k.perform a (.command (.load {} german))
    r.1.error?.isSome = true ∧ r.2.dispatcher.theme = k.dispatcher.theme ∧
      (r.2.performAll a [.command (.createView true)]).dispatcher.views.map Record.origin =
        [(1, Theme.lxxLight.name), (2, Theme.lxxLight.name)] := by
  intro a k german r
  have hm : k.dispatcher.mustBuild a.toEnvironment {} german = true := by decide +kernel
  have hbound : k.dispatcher.theme ≠ none := by decide +kernel
  have hviews : (k.performAll a [.command (.createView true)]).dispatcher.views.map Record.origin =
      [(1, Theme.lxxLight.name), (2, Theme.lxxLight.name)] := by
    decide +kernel
  obtain ⟨herror, hkept, hlater, -⟩ := theme_of_failed_build a k (.command (.load {} german))
    rfl hm rfl
  refine ⟨?_, hkept.2 hbound, ?_⟩
  · rw [herror]
    rfl
  · obtain ⟨-, horigins, -⟩ := hlater hbound [.command (.createView true)]
    exact horigins.trans hviews

/-- The very first load asks for a German layout in the oldest theme, which is not to be had.  The
theme stays bound, and the first view is for it, though the live settings say another one. -/
theorem theme_of_failed_first_build :
    let a : Assembly Layer := ⟨.ofCatalog .bare {} false, .basic⟩
    let k := start {} Layer.alphabet
    let german : Settings := { theme := Theme.ics.id, subtype := ⟨"de_DE", "qwertz"⟩ }
    let r := k.perform a (.command (.load {} german))
    let attach := Operation.command (.createView false)
    (∃ e, k.dispatcher.built a.toEnvironment {} german = .error e ∧
        r.1.error? = some (.build e)) ∧
      k.dispatcher.theme = none ∧ r.2.dispatcher.theme ≠ none ∧
      (k.perform a attach).2.dispatcher.views.map Record.origin = [(1, Theme.lxxLight.name)] ∧
      (r.2.perform a attach).2.dispatcher.views.map Record.origin = [(1, Theme.ics.name)] :=
  ⟨⟨_, rfl, rfl⟩, rfl, by decide +kernel, by decide +kernel, by decide +kernel⟩

end Keyboard

end SoftKeyboard
