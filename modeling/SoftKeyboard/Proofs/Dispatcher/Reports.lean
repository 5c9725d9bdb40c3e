import Mathlib.Tactic.SplitIfs
import SoftKeyboard.Proofs.Dispatcher.Installation

/-!
# A dispatcher does not read its reports

Reports that were there before stay in front of what a dispatcher reports next, and make no other
difference: putting them there (`Dispatcher.withEarlier`) commutes with whatever it does.
-/

namespace SoftKeyboard

/-! ### Dispatchers -/

namespace Dispatcher

variable (earlier : List Notice) (env : Environment) (d : Dispatcher)

/-- The dispatcher with reports put before its own. -/
def withEarlier : Dispatcher := { d with notices := earlier ++ d.notices }

theorem note_withEarlier (notices : List Notice) :
    (d.withEarlier earlier).note notices = (d.note notices).withEarlier earlier := by
  simp [note, withEarlier]

theorem updateTheme_withEarlier (id : ThemeId) :
    (d.withEarlier earlier).updateTheme env id =
      ((d.updateTheme env id).1, (d.updateTheme env id).2.withEarlier earlier) := by
  have hd : (d.withEarlier earlier).note (themeNotices id) =
      (d.note (themeNotices id)).withEarlier earlier :=
    note_withEarlier ..
  dsimp only [updateTheme]
  rw [hd]
  generalize d.note (themeNotices id) = d₁
  have ht : (d₁.withEarlier earlier).theme = d₁.theme := rfl
  rw [ht]
  split_ifs
  · rfl
  · simp [withEarlier, note, configuration?]

theorem bindTheme_withEarlier (fallback : ThemeId) :
    (d.withEarlier earlier).bindTheme env fallback =
      ((d.bindTheme env fallback).1, (d.bindTheme env fallback).2.withEarlier earlier) := by
  cases h : d.theme <;> simp [bindTheme, withEarlier, note, h]

theorem configurationFor_withEarlier (editor : Editor) (settings : Settings) :
    (d.withEarlier earlier).configurationFor env editor settings =
      ((d.configurationFor env editor settings).1,
        (d.configurationFor env editor settings).2.withEarlier earlier) := by
  dsimp only [configurationFor]
  rw [bindTheme_withEarlier]

theorem setLocale_withEarlier (locale : String) :
    (d.withEarlier earlier).setLocale locale = (d.setLocale locale).withEarlier earlier := by
  simp [setLocale, withEarlier, note]

theorem install_withEarlier (c : Configuration) :
    (d.withEarlier earlier).install env c =
      ((d.install env c).1, (d.install env c).2.withEarlier earlier) := by
  have hc : (d.withEarlier earlier).configuration? = d.configuration? := rfl
  unfold install
  rw [hc]
  split_ifs
  · have hbuilds : (d.withEarlier earlier).builds = d.builds := rfl
    rw [hbuilds]
    cases env.build d.builds c with
    | error e =>
      exact congrArg (Prod.mk _) (note_withEarlier earlier { d with builds := d.builds + 1 } _)
    | ok layout =>
      have hnote := note_withEarlier earlier
        { d with builds := d.builds + 1, layout := some layout } [.builtLayout c layout.script]
      exact congrArg (Prod.mk _) ((congrArg (setLocale · c.subtype.locale) hnote).trans
        (setLocale_withEarlier ..))
  · rw [note_withEarlier, setLocale_withEarlier]

theorem prepare_withEarlier (editor : Editor) (settings : Settings) :
    (d.withEarlier earlier).prepare env editor settings =
      ((d.prepare env editor settings).1,
        (d.prepare env editor settings).2.withEarlier earlier) := by
  unfold prepare
  rw [configurationFor_withEarlier]
  exact install_withEarlier ..

theorem createView_withEarlier (hardwareAcceleration : Bool) :
    (d.withEarlier earlier).createView env hardwareAcceleration =
      ((d.createView env hardwareAcceleration).1,
        (d.createView env hardwareAcceleration).2.withEarlier earlier) := by
  unfold createView
  have hscreen : (d.withEarlier earlier).screen = d.screen := rfl
  have hretire : ∀ record, (d.withEarlier earlier).retire record =
      (d.retire record).withEarlier earlier :=
    fun _ => rfl
  rw [hscreen]
  -- a fresh view is attached for the theme that is bound by then
  cases d.screen with
  | none =>
    dsimp only
    rw [bindTheme_withEarlier]
    simp [withEarlier, note]
  | some s =>
    dsimp only
    rw [hretire, note_withEarlier, bindTheme_withEarlier]
    simp [withEarlier, note]

theorem destroyView_withEarlier :
    (d.withEarlier earlier).destroyView =
      (d.destroyView.1, d.destroyView.2.withEarlier earlier) := by
  cases h : d.screen <;> simp [destroyView, withEarlier, note, retire, h]

theorem releaseResources_withEarlier :
    (d.withEarlier earlier).releaseResources = d.releaseResources.withEarlier earlier := by
  cases h : d.screen <;> simp [releaseResources, withEarlier, note, h]

theorem setMoreKeys_withEarlier (showing : Bool) :
    (d.withEarlier earlier).setMoreKeys showing =
      ((d.setMoreKeys showing).1, (d.setMoreKeys showing).2.withEarlier earlier) := by
  cases h : d.screen <;> cases h' : d.retired.getLast? <;>
    simp [Dispatcher.setMoreKeys, withEarlier, h, h']

theorem selectOn_withEarlier (layout : Layout) (s : Screen) (layer : Layer) :
    (d.withEarlier earlier).selectOn layout s layer =
      (d.selectOn layout s layer).withEarlier earlier := by
  unfold selectOn
  split_ifs <;> simp [withEarlier, note]

theorem select_withEarlier (layer : Layer) :
    (d.withEarlier earlier).select layer =
      ((d.select layer).1, (d.select layer).2.withEarlier earlier) := by
  have hlayout : (d.withEarlier earlier).layout = d.layout := rfl
  have hscreen : (d.withEarlier earlier).screen = d.screen := rfl
  unfold select
  rw [hlayout, hscreen]
  cases d.layout with
  | none => exact congrArg (Prod.mk _) (note_withEarlier ..)
  | some layout =>
    cases d.screen with
    | none => exact congrArg (Prod.mk _) (note_withEarlier ..)
    | some s => exact congrArg (Prod.mk _) (selectOn_withEarlier ..)

theorem save_withEarlier :
    (d.withEarlier earlier).save = (d.save.1, d.save.2.withEarlier earlier) := by
  have hc : (d.withEarlier earlier).currentLayer? = d.currentLayer? := rfl
  unfold save
  rw [hc]
  cases d.currentLayer? <;> simp [withEarlier, note]

end Dispatcher

end SoftKeyboard
