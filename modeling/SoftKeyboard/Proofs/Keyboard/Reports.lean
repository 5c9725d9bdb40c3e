import SoftKeyboard.Proofs.Dispatcher.Reports
import SoftKeyboard.Proofs.Keyboard.Replay

/-!
# Reports are written and not read

Whatever a keyboard does, it reads none of its reports.  Reports that were there before stay in
front of what it reports next, and make no other difference (`Keyboard.perform_withEarlier`).

So two keyboards that are the same but for their reports (`Keyboard.SameButReports`) reply the same,
report the same and stay so, whatever is done to both.
-/

namespace SoftKeyboard

open Dispatcher

/-- A program is run alike, whatever was reported before. -/
theorem Program.run_withEarlier {α : Type} (earlier : List Notice) (p : Program α)
    (d : Dispatcher) :
    p.run (d.withEarlier earlier) = ((p.run d).1, (p.run d).2.withEarlier earlier) := by
  induction p generalizing d with
  | done value => rfl
  | select layer next ih =>
    unfold run
    rw [select_withEarlier]
    exact ih _ _
  | requestShift c next ih => exact ih { d with pending := d.pending ++ [c] }
  | setTimer running next ih => exact ih (d.setTimer running)
  | timerRunning next ih => exact ih d.timerRunning d
  | note notice next ih =>
    unfold run
    rw [note_withEarlier]
    exact ih _

namespace Keyboard

variable {σ : Type} (earlier : List Notice) (a : Assembly σ) (k : Keyboard σ)

/-- The keyboard with reports put before its own. -/
def withEarlier : Keyboard σ := k.withDispatcher (k.dispatcher.withEarlier earlier)

/-! ### The state machine -/

theorem react_withEarlier (callback : Callback) (c : Capitalization) :
    react a (k.withEarlier earlier) callback c =
      ((react a k callback c).1, (react a k callback c).2.withEarlier earlier) := by
  have hrun := Program.run_withEarlier earlier (a.machine.react callback c k.position) k.dispatcher
  unfold react
  dsimp only [withEarlier, withDispatcher]
  rw [hrun]

theorem replay_withEarlier (budget : Nat) :
    replay a budget (k.withEarlier earlier) =
      ((replay a budget k).1, (replay a budget k).2.withEarlier earlier) := by
  induction budget generalizing k with
  | zero =>
    cases hp : k.dispatcher.pending with
    | nil =>
      rw [replay_of_nil a 0 hp]
      exact replay_of_nil a 0 hp
    | cons c rest =>
      have hp' : (k.withEarlier earlier).dispatcher.pending = c :: rest := hp
      rw [replay_zero_of_cons a hp, replay_zero_of_cons a hp']
      exact congrArg (fun d => (_, k.withDispatcher d))
        (note_withEarlier earlier k.emptied.dispatcher _)
  | succ budget ih =>
    cases hp : k.dispatcher.pending with
    | nil =>
      rw [replay_of_nil a (budget + 1) hp]
      exact replay_of_nil a (budget + 1) hp
    | cons c rest =>
      have hp' : (k.withEarlier earlier).dispatcher.pending = c :: rest := hp
      have hturn :=
        react_withEarlier earlier a (k.updateTurn c rest).keyboard (.input .updateShift) c
      have houtcome : ((k.withEarlier earlier).updateTurn c rest).outcome a =
          (k.updateTurn c rest).outcome a := by
        exact congrArg (fun r => r.1) hturn
      have hafter : ((k.withEarlier earlier).updateTurn c rest).after a =
          ((k.updateTurn c rest).after a).withEarlier earlier := by
        exact congrArg (fun r => r.2) hturn
      rw [replay_succ_of_cons a budget hp, replay_succ_of_cons a budget hp', houtcome, hafter]
      cases (k.updateTurn c rest).outcome a with
      | ok => exact ih _
      | error e => rfl

theorem drive_withEarlier (callback : Callback) (c : Capitalization) :
    drive a (k.withEarlier earlier) callback c =
      ((drive a k callback c).1, (drive a k callback c).2.withEarlier earlier) := by
  unfold drive
  rw [react_withEarlier]
  dsimp only
  rw [replay_withEarlier]

/-! ### Operations -/

theorem load_withEarlier (request : LoadRequest) (settings : Settings) :
    load a (k.withEarlier earlier) request settings =
      ((load a k request settings).1, (load a k request settings).2.withEarlier earlier) := by
  have hd : (k.withEarlier earlier).dispatcher = k.dispatcher.withEarlier earlier := rfl
  rw [load_eq, load_eq, hd, prepare_withEarlier]
  rcases k.dispatcher.prepare a.toEnvironment request.editor settings with ⟨e | ⟨⟩, d⟩
  · rfl
  · exact drive_withEarlier earlier a (k.withDispatcher d) .load request.capitalization

theorem select_withEarlier (layer : Layer) :
    (k.withEarlier earlier).select layer =
      ((k.select layer).1, (k.select layer).2.withEarlier earlier) := by
  have hselect := Dispatcher.select_withEarlier earlier k.dispatcher layer
  unfold select
  dsimp only [withEarlier, withDispatcher]
  rw [hselect]

theorem selectPane_withEarlier (layer : Layer) :
    (k.withEarlier earlier).selectPane layer =
      ((k.selectPane layer).1, (k.selectPane layer).2.withEarlier earlier) := by
  unfold selectPane
  rw [select_withEarlier]
  obtain ⟨e | ⟨⟩, k'⟩ := k.select layer
  · rfl
  · rfl

theorem toggleEmoji_withEarlier (request : LoadRequest) :
    toggleEmoji a (k.withEarlier earlier) request =
      ((toggleEmoji a k request).1, (toggleEmoji a k request).2.withEarlier earlier) := by
  have hlayout : (k.withEarlier earlier).dispatcher.layout = k.dispatcher.layout := rfl
  have hshows : (k.withEarlier earlier).dispatcher.showsEmoji = k.dispatcher.showsEmoji := rfl
  have hlive : (k.withEarlier earlier).dispatcher.live = k.dispatcher.live := rfl
  unfold toggleEmoji
  rw [hlayout, hshows, hlive, load_withEarlier]
  split_ifs
  · obtain ⟨e | ⟨⟩, k'⟩ := load a k request k.dispatcher.live
    · rfl
    · exact selectPane_withEarlier earlier k' .emoji
  · exact selectPane_withEarlier earlier k .alphabet
  · exact selectPane_withEarlier earlier k .emoji

theorem save_withEarlier :
    (k.withEarlier earlier).save a = (k.save a).withEarlier earlier := by
  have hsave := Dispatcher.save_withEarlier earlier k.dispatcher
  unfold save
  dsimp only [withEarlier, withDispatcher]
  rw [hsave]
  rcases k.dispatcher.save with ⟨_ | _, d⟩
  · rfl
  · exact congrArg (fun d => Keyboard.mk d _ _) (note_withEarlier ..)

theorem restore_withEarlier :
    (k.withEarlier earlier).restore = (k.restore.1, k.restore.2.withEarlier earlier) := by
  have hsaved : (k.withEarlier earlier).dispatcher.saved = k.dispatcher.saved := rfl
  unfold restore
  rw [hsaved]
  cases k.dispatcher.saved with
  | none => rfl
  | some layer =>
    dsimp only
    rw [select_withEarlier]
    obtain ⟨e | ⟨⟩, k'⟩ := k.select layer
    · rfl
    · exact congrArg (fun d => (_, k'.withDispatcher d))
        (note_withEarlier earlier { k'.dispatcher with saved := none } _)

theorem requestShift_withEarlier (c : Capitalization) :
    (k.withEarlier earlier).requestShift a c = (k.requestShift a c).withEarlier earlier := by
  unfold requestShift
  rw [drive_withEarlier]
  obtain ⟨e | ⟨⟩, k'⟩ := drive a k (.input .updateShift) c
  · exact congrArg k'.withDispatcher (note_withEarlier ..)
  · rfl

theorem obey_withEarlier (command : Command) :
    (k.withEarlier earlier).obey a command =
      ((k.obey a command).1, (k.obey a command).2.withEarlier earlier) := by
  have hd : (k.withEarlier earlier).dispatcher = k.dispatcher.withEarlier earlier := rfl
  cases command with
  | updateTheme id =>
    dsimp only [obey]
    rw [hd, updateTheme_withEarlier]
    rfl
  | load request settings =>
    dsimp only [obey]
    rw [load_withEarlier]
  | toggleEmoji request =>
    dsimp only [obey]
    rw [toggleEmoji_withEarlier]
  | createView hardwareAcceleration =>
    dsimp only [obey]
    rw [hd, createView_withEarlier]
    rfl
  | destroyView =>
    dsimp only [obey]
    rw [hd, destroyView_withEarlier]
    rfl
  | releaseResources =>
    dsimp only [obey]
    rw [hd, releaseResources_withEarlier]
    rfl
  | hideWindow => rfl
  | save => exact congrArg (Prod.mk _) (save_withEarlier ..)
  | restore =>
    dsimp only [obey]
    rw [restore_withEarlier]
  | input i c =>
    dsimp only [obey]
    rw [drive_withEarlier]

/-- **An operation reads no reports**: those that were there before stay in front of its own, and
make no other difference. -/
theorem perform_withEarlier (operation : Operation) :
    (k.withEarlier earlier).perform a operation =
      ((k.perform a operation).1, (k.perform a operation).2.withEarlier earlier) := by
  cases operation with
  | command command => exact obey_withEarlier earlier a k command
  | select layer =>
    dsimp only [perform]
    rw [select_withEarlier]
  | requestShift c => exact congrArg (Prod.mk _) (requestShift_withEarlier ..)
  | setTimer running => rfl
  | publish settings => rfl
  | setMoreKeys showing =>
    have hd : (k.withEarlier earlier).dispatcher = k.dispatcher.withEarlier earlier := rfl
    dsimp only [perform]
    rw [hd, setMoreKeys_withEarlier]
    rfl

/-! ### Keyboards without their reports -/

/-- The keyboard without its reports. -/
def unreported : Keyboard σ := k.withDispatcher { k.dispatcher with notices := [] }

/-- What an operation reports. -/
def reports (operation : Operation) : List Notice :=
  (k.unreported.perform a operation).2.dispatcher.notices

theorem withEarlier_unreported : k.unreported.withEarlier k.dispatcher.notices = k := by
  have hn : k.dispatcher.notices ++ [] = k.dispatcher.notices := List.append_nil _
  unfold withEarlier Dispatcher.withEarlier unreported withDispatcher
  dsimp only
  rw [hn]

/-- What an operation does, it does to the keyboard without its reports. -/
theorem perform_unreported (operation : Operation) :
    k.perform a operation =
      ((k.unreported.perform a operation).1,
        (k.unreported.perform a operation).2.withEarlier k.dispatcher.notices) := by
  rw [← perform_withEarlier, withEarlier_unreported]

theorem notices_perform (operation : Operation) :
    (k.perform a operation).2.dispatcher.notices =
      k.dispatcher.notices ++ k.reports a operation := by
  rw [perform_unreported]
  rfl

/-! ### Keyboards that differ in their reports -/

/-- Two keyboards are the same but for their reports. -/
def SameButReports (k k' : Keyboard σ) : Prop := k'.unreported = k.unreported

theorem SameButReports.refl : k.SameButReports k := rfl

theorem sameButReports_note (notices : List Notice) :
    k.SameButReports (k.withDispatcher (k.dispatcher.note notices)) := rfl

namespace SameButReports

variable {k} {k' : Keyboard σ} (h : k.SameButReports k')

include h

theorem trans {k'' : Keyboard σ} (h' : k'.SameButReports k'') : k.SameButReports k'' :=
  Eq.trans h' h

theorem symm : k'.SameButReports k := Eq.symm h

/-- They look the same. -/
theorem snapshot_eq : k'.snapshot = k.snapshot := by
  show k'.unreported.snapshot = k.unreported.snapshot
  rw [h]

/-- They reply the same. -/
theorem reply_eq (operation : Operation) :
    (k'.perform a operation).1 = (k.perform a operation).1 := by
  rw [perform_unreported a k, perform_unreported a k', h]

/-- They report the same. -/
theorem reports_eq (operation : Operation) : k'.reports a operation = k.reports a operation := by
  rw [reports, h, ← reports]

/-- **They stay the same but for their reports.** -/
theorem perform (operation : Operation) :
    (k.perform a operation).2.SameButReports (k'.perform a operation).2 := by
  rw [perform_unreported a k, perform_unreported a k', h]
  rfl

end SameButReports

end Keyboard

end SoftKeyboard
