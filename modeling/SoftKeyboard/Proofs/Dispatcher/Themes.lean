import SoftKeyboard.Proofs.Dispatcher.Frames
import SoftKeyboard.Proofs.Dispatcher.Moves

/-!
# The theme in the course of moves

A theme is bound in three places: by the first load, for the first view, and whenever the host asks
for another one.  What each of them does is `Dispatcher.Move.themeStep`: once a theme is bound, only
the last can change it, and then it drops the layout.

So the bound theme is always one that an identifier stands for, on the display of the environment
(`Dispatcher.Resolved`, `Dispatcher.DrawnOn`).
-/

namespace SoftKeyboard

/-! ### Themes and identifiers -/

namespace Theme

theorem resolve_mem_all (id : ThemeId) : resolve id ∈ all := by
  unfold resolve
  cases h : find? id with
  | none => decide
  | some theme => exact List.mem_of_find?_eq_some h

/-- A known theme is what its identifier stands for. -/
theorem resolve_id {theme : Theme} (h : theme ∈ all) : resolve theme.id = theme := by
  simp only [all, List.mem_cons, List.not_mem_nil, or_false] at h
  rcases h with rfl | rfl | rfl | rfl <;> rfl

/-- An identifier of no theme stands for the fallback. -/
theorem resolve_of_unknown {id : ThemeId} (h : ∀ theme ∈ all, theme.id ≠ id) :
    resolve id = fallback := by
  have hnone : find? id = none :=
    List.find?_eq_none.2 fun theme ht hid => h theme ht (of_decide_eq_true hid)
  rw [resolve, hnone]
  rfl

/-- Known themes differ in their identifiers. -/
theorem eq_of_id_eq {theme other : Theme} (h : theme ∈ all) (h' : other ∈ all)
    (hid : theme.id = other.id) : theme = other := by
  rw [← resolve_id h, ← resolve_id h', hid]

end Theme

namespace Dispatcher

variable {env : Environment} {d d' : Dispatcher}

/-! ### The theme in a move -/

/-- What becomes of the theme in a move. -/
inductive ThemeStep (env : Environment) (d d' : Dispatcher) : Prop where
  | kept (theme : d'.theme = d.theme)
  /-- There was no theme, and now there is one. -/
  | bound (id : ThemeId) (before : d.theme = none)
    (theme : d'.theme = some ⟨Theme.resolve id, env.display⟩)
  /-- The host asked for another theme, and the layout is dropped. -/
  | changed (id : ThemeId) (theme : d'.theme = some ⟨Theme.resolve id, env.display⟩)
    (layout : d'.layout = none)

theorem themeStep_of_boundOr {fallback : ThemeId} (h : d'.theme = some (d.boundOr env fallback)) :
    ThemeStep env d d' := by
  unfold boundOr at h
  cases ht : d.theme with
  | none =>
    rw [ht] at h
    exact .bound fallback ht h
  | some bound =>
    rw [ht] at h
    exact .kept (h.trans ht.symm)

theorem theme_install (env : Environment) (d : Dispatcher) (c : Configuration) :
    (d.install env c).2.theme = d.theme := by
  unfold install
  split
  · dsimp only
    split <;> rfl
  · rfl

/-- A load binds a theme in any case. -/
theorem theme_prepare (env : Environment) (d : Dispatcher) (editor : Editor) (settings : Settings) :
    (d.prepare env editor settings).2.theme = some (d.boundOr env settings.theme) := by
  obtain ⟨notices, h⟩ := d.bindTheme_eq env settings.theme
  unfold prepare configurationFor
  rw [theme_install]
  exact congrArg (fun r => r.2.theme) h

theorem theme_createView (env : Environment) (d : Dispatcher) (hardwareAcceleration : Bool) :
    (d.createView env hardwareAcceleration).2.theme = some (d.boundOr env d.live.theme) := by
  obtain ⟨notices, h⟩ := d.createView_eq env hardwareAcceleration
  rw [h]

/-- **What a move does to the theme**: it stays, or is bound for the first time, or is another one
without a layout. -/
theorem Move.themeStep (h : Move env d d') : ThemeStep env d d' := by
  cases h with
  | request hr => exact .kept hr.sameHoldings.theme
  | updateTheme id =>
    rcases updateTheme_cases env d id with ⟨notices, hu⟩ | ⟨notices, hu⟩
    · rw [hu]
      exact .kept rfl
    · rw [hu]
      exact .changed id rfl rfl
  | prepare editor settings => exact themeStep_of_boundOr (d.theme_prepare env editor settings)
  | createView hardwareAcceleration =>
    exact themeStep_of_boundOr (d.theme_createView env hardwareAcceleration)
  | destroyView =>
    obtain ⟨retired, notices, hd⟩ := exists_destroyView_eq d
    rw [hd]
    exact .kept rfl
  | releaseResources =>
    obtain ⟨screen, notices, hd⟩ := exists_releaseResources_eq d
    rw [hd]
    exact .kept rfl
  | hideWindow => exact .kept rfl
  | save =>
    obtain ⟨saved, notices, hd⟩ := exists_save_eq d
    rw [hd]
    exact .kept rfl
  | forget => exact .kept rfl
  | publish settings => exact .kept rfl
  | setMoreKeys showing =>
    obtain ⟨screen, retired, hd⟩ := exists_setMoreKeys_eq d showing
    rw [hd]
    exact .kept rfl

/-! ### The bound theme -/

/-- The theme that is bound is one that an identifier stands for, on the display. -/
def Resolved (display : Display) (d : Dispatcher) : Prop :=
  ∀ bound, d.theme = some bound → ∃ id, bound = ⟨Theme.resolve id, display⟩

theorem Resolved.move (h : d.Resolved env.display) (hm : Move env d d') :
    d'.Resolved env.display := by
  intro bound hb
  cases hm.themeStep with
  | kept htheme => exact h bound (htheme.symm.trans hb)
  | bound id _ htheme => exact ⟨id, (Option.some.inj (htheme.symm.trans hb)).symm⟩
  | changed id htheme _ => exact ⟨id, (Option.some.inj (htheme.symm.trans hb)).symm⟩

/-- The theme that is bound was bound for the display. -/
def DrawnOn (display : Display) (d : Dispatcher) : Prop :=
  ∀ bound, d.theme = some bound → bound.display = display

theorem DrawnOn.move (h : d.DrawnOn env.display) (hm : Move env d d') :
    d'.DrawnOn env.display := by
  intro bound hb
  cases hm.themeStep with
  | kept htheme => exact h bound (htheme.symm.trans hb)
  | bound id _ htheme => exact congrArg _ (Option.some.inj (hb.symm.trans htheme))
  | changed id htheme _ => exact congrArg _ (Option.some.inj (hb.symm.trans htheme))

/-! ### The configuration for an editor -/

section

variable (env : Environment) (d : Dispatcher) (editor : Editor) (settings : Settings)

theorem derived_eq_derive :
    d.derived env editor settings = .derive (d.boundOr env settings.theme) editor settings := by
  obtain ⟨notices, h⟩ := d.bindTheme_eq env settings.theme
  show Configuration.derive (d.bindTheme env settings.theme).1 editor settings = _
  rw [h]

/-- The configuration that is asked for is that of the bound theme, or else of the theme of the
settings. -/
theorem derived_eq (h : d.DrawnOn env.display) :
    d.derived env editor settings =
      .derive ⟨(d.theme.map BoundTheme.theme).getD (.resolve settings.theme), env.display⟩ editor
        settings := by
  rw [derived_eq_derive, boundOr]
  cases ht : d.theme with
  | none => rfl
  | some bound =>
    rw [← h bound ht]
    rfl

end

end Dispatcher

end SoftKeyboard
