import Mathlib.Tactic.SplitIfs
import SoftKeyboard.Proofs.Dispatcher.Installation

/-!
# What single operations leave alone

Each operation of a dispatcher changes a few of its fields.  Which ones is said here, once for each
operation, by an equation that leaves open what those fields become; that all other fields stay is
read off it.
-/

namespace SoftKeyboard

namespace Dispatcher

variable (env : Environment) (d : Dispatcher)

/-- A theme that is bound already stays; any other one is bound, and the layout is dropped. -/
theorem updateTheme_cases (id : ThemeId) :
    (∃ notices, d.updateTheme env id = (false, { d with notices })) ∨
      ∃ notices, d.updateTheme env id =
        (true,
          { d with theme := some ⟨Theme.resolve id, env.display⟩, layout := none, notices }) := by
  dsimp only [updateTheme]
  split_ifs
  · exact .inl ⟨_, rfl⟩
  · exact .inr ⟨_, rfl⟩

/-- The theme that is bound, or else the one that a fallback stands for. -/
def boundOr (fallback : ThemeId) : BoundTheme :=
  d.theme.getD ⟨Theme.resolve fallback, env.display⟩

theorem bindTheme_eq (fallback : ThemeId) :
    ∃ notices, d.bindTheme env fallback =
      (d.boundOr env fallback, { d with theme := some (d.boundOr env fallback), notices }) := by
  unfold bindTheme boundOr
  cases ht : d.theme with
  | none => exact ⟨_, rfl⟩
  | some bound =>
    have hd : d = { d with theme := some bound } := by rw [← ht]
    exact ⟨d.notices, congrArg (Prod.mk bound) hd⟩

/-- The records of all views, once the attached one is closed. -/
def closedViews : List Record := d.retired ++ (d.screen.map fun s => s.close.1).toList

theorem length_closedViews : d.closedViews.length = d.views.length := by
  rw [closedViews, views, List.length_append, List.length_append]
  cases d.screen <;> rfl

/-- A new view is attached in place of the one before, for the theme that was bound or is bound
now. -/
theorem createView_eq (hardwareAcceleration : Bool) :
    ∃ notices, d.createView env hardwareAcceleration =
      (d.views.length + 1,
        { d with
          hardwareAcceleration
          theme := some (d.boundOr env d.live.theme)
          screen := some (.attach (d.views.length + 1) (d.boundOr env d.live.theme).theme.name
            hardwareAcceleration env.listening)
          retired := d.closedViews, notices }) := by
  rw [← d.length_closedViews]
  unfold createView closedViews
  cases hs : d.screen with
  | none =>
    obtain ⟨notices, h⟩ := d.bindTheme_eq env d.live.theme
    dsimp only [Option.map_none, Option.toList_none]
    rw [h, List.append_nil]
    exact ⟨_, rfl⟩
  | some s =>
    obtain ⟨notices, h⟩ := ((d.retire s.close.1).note
      (.replacingView s.view :: s.close.2)).bindTheme_eq env d.live.theme
    dsimp only [note, retire] at h ⊢
    rw [h]
    exact ⟨_, rfl⟩

theorem exists_createView_eq (hardwareAcceleration : Bool) :
    ∃ view name theme retired notices, (d.createView env hardwareAcceleration).2 =
      { d with
        hardwareAcceleration, theme, retired, notices
        screen := some (.attach view name hardwareAcceleration env.listening) } := by
  obtain ⟨notices, h⟩ := d.createView_eq env hardwareAcceleration
  exact ⟨_, _, _, _, notices, congrArg Prod.snd h⟩

/-- The attached view is closed, and no view is attached afterwards. -/
theorem destroyView_eq :
    ∃ notices, d.destroyView =
      (d.screen.map Screen.view,
        { d with screen := none, retired := d.closedViews, notices }) := by
  unfold destroyView closedViews
  cases hs : d.screen with
  | none =>
    have hd : d = { d with screen := none, retired := d.retired ++ [] } := by
      rw [List.append_nil, ← hs]
    exact ⟨d.notices, congrArg (Prod.mk none) hd⟩
  | some s => exact ⟨_, rfl⟩

theorem exists_destroyView_eq :
    ∃ retired notices, d.destroyView.2 = { d with screen := none, retired, notices } := by
  obtain ⟨notices, h⟩ := d.destroyView_eq
  exact ⟨_, notices, congrArg Prod.snd h⟩

theorem exists_releaseResources_eq :
    ∃ screen notices, d.releaseResources = { d with screen, notices } := by
  unfold releaseResources
  split <;> exact ⟨_, _, rfl⟩

theorem exists_save_eq : ∃ saved notices, d.save.2 = { d with saved, notices } := by
  unfold save
  split <;> exact ⟨_, _, rfl⟩

theorem exists_setMoreKeys_eq (showing : Bool) :
    ∃ screen retired, (d.setMoreKeys showing).2 = { d with screen, retired } := by
  unfold Dispatcher.setMoreKeys
  split <;> exact ⟨_, _, rfl⟩

end Dispatcher

end SoftKeyboard
