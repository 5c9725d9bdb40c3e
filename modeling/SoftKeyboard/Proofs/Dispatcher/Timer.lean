import SoftKeyboard.Proofs.Dispatcher.Selection

/-!
# The timer of a double tap

The timer belongs to the attached view.  Of the calls to a view only those that end its use or
cancel what it is doing stop the timer (`Record.timerRunning_applyAll`).  Showing a layer makes none
of them (`Dispatcher.timerRunning_select`), and neither does hiding the window, but releasing what a
view holds on to does (`Dispatcher.timerRunning_releaseResources`).
-/

namespace SoftKeyboard

/-- What becomes of the timer by a call. -/
def SinkCall.timer? : SinkCall → Option Bool
  | closing | cancelEvents => some false
  | _ => none

theorem Record.timerRunning_applyAll (r : Record) (calls : List SinkCall) :
    (r.applyAll calls).timerRunning =
      (calls.filterMap SinkCall.timer?).getLast?.getD r.timerRunning :=
  applyAll_last Record.timerRunning SinkCall.timer? (fun _ c => by cases c <;> rfl) r calls

/-! ### Showing -/

namespace Presenter

variable (p : Presenter)

theorem timer_showMain (v : Variant) (presentation : Presentation) (collapse : Bool) :
    (p.showMain v presentation collapse).2.filterMap SinkCall.timer? = [] := by
  unfold showMain stopCalls frameCalls
  split_ifs <;> rfl

theorem timer_showEmoji (label : String) (look : Look) (icons : IconSet) :
    (p.showEmoji label look icons).2.filterMap SinkCall.timer? = [] := by
  unfold showEmoji frameCalls
  split_ifs <;> rfl

end Presenter

namespace Screen

variable (s : Screen)

theorem timerRunning_showMain (v : Variant) (presentation : Presentation) (collapse : Bool) :
    (s.showMain v presentation collapse).1.record.timerRunning = s.record.timerRunning := by
  show (s.record.applyAll (s.presenter.showMain v presentation collapse).2).timerRunning = _
  rw [Record.timerRunning_applyAll, Presenter.timer_showMain]
  rfl

theorem timerRunning_showEmoji (label : String) (look : Look) (icons : IconSet) :
    (s.showEmoji label look icons).1.record.timerRunning = s.record.timerRunning := by
  show (s.record.applyAll (s.presenter.showEmoji label look icons).2).timerRunning = _
  rw [Record.timerRunning_applyAll, Presenter.timer_showEmoji]
  rfl

end Screen

namespace Dispatcher

variable {d : Dispatcher}

theorem timerRunning_of_screen {s : Screen} (h : d.screen = some s) :
    d.timerRunning = s.record.timerRunning := by
  rw [timerRunning, h]
  rfl

theorem timerRunning_selectOn {s : Screen} (hs : d.screen = some s) (layout : Layout)
    (layer : Layer) : (d.selectOn layout s layer).timerRunning = d.timerRunning := by
  rw [timerRunning_of_screen hs]
  unfold selectOn
  by_cases he : layer = .emoji
  · rw [if_pos he]
    exact (timerRunning_of_screen rfl).trans (s.timerRunning_showEmoji ..)
  · rw [if_neg he]
    exact (timerRunning_of_screen rfl).trans (s.timerRunning_showMain ..)

/-- Showing a layer does not touch the timer. -/
theorem timerRunning_select (d : Dispatcher) (layer : Layer) :
    (d.select layer).2.timerRunning = d.timerRunning := by
  cases hl : d.layout with
  | none =>
    rw [select_of_layout_eq_none layer hl]
    rfl
  | some layout =>
    cases hs : d.screen with
    | none =>
      rw [select_of_screen_eq_none layer hl hs]
      rfl
    | some s =>
      rw [select_of_eq_some layer hl hs]
      exact timerRunning_selectOn hs layout layer

/-! ### Views -/

theorem timerRunning_congr {d' : Dispatcher} (h : d'.screen = d.screen) :
    d'.timerRunning = d.timerRunning := by
  rw [timerRunning, timerRunning, h]

theorem timerRunning_of_screen_eq_none (h : d.screen = none) : d.timerRunning = false := by
  rw [timerRunning, h]
  rfl

/-- On a fresh view the timer does not run. -/
theorem timerRunning_createView (env : Environment) (d : Dispatcher)
    (hardwareAcceleration : Bool) :
    (d.createView env hardwareAcceleration).2.timerRunning = false := rfl

/-- To release what a view holds on to stops the timer. -/
theorem timerRunning_releaseResources (d : Dispatcher) :
    d.releaseResources.timerRunning = false := by
  unfold releaseResources
  split
  · exact timerRunning_of_screen_eq_none ‹_›
  · rename_i s _
    show (s.record.applyAll s.presenter.releaseResources.2).timerRunning = false
    rw [Record.timerRunning_applyAll]
    unfold Presenter.releaseResources Presenter.stopCalls
    split_ifs <;> rfl

theorem timerRunning_hideWindow (d : Dispatcher) :
    d.hideWindow.timerRunning = d.timerRunning := by
  unfold hideWindow timerRunning
  cases d.screen <;> rfl

theorem timerRunning_setMoreKeys (d : Dispatcher) (showing : Bool) :
    (d.setMoreKeys showing).2.timerRunning = d.timerRunning := by
  unfold Dispatcher.setMoreKeys
  split
  · rename_i s hs
    rw [timerRunning_of_screen hs]
    rfl
  · rfl
  · rfl

/-! ### Starting and cancelling -/

/-- On an attached view the timer runs as it was set; without a view there is none. -/
theorem timerRunning_setTimer (d : Dispatcher) (running : Bool) :
    (d.setTimer running).timerRunning = (d.screen.isSome && running) := by
  unfold setTimer timerRunning
  cases d.screen with
  | none => rfl
  | some s => exact (Bool.true_and running).symm

end Dispatcher

end SoftKeyboard
