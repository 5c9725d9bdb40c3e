import SoftKeyboard.Keyboard.Operation
import SoftKeyboard.Proofs.Dispatcher.Moves

/-!
# Operations as moves

A machine reaches its keyboard through requests only, whatever program it answers with
(`Program.run_requests`), and so does the replay of what it asked for (`Keyboard.drive_requests`).
Every operation of a host is a chain of moves (`Keyboard.perform_moves`), hence so is every run
(`Keyboard.performAll_moves`).
-/

namespace SoftKeyboard

open Relation Dispatcher

/-- An environment with a layout of bare keys for every configuration that is not split. -/
def Environment.unsplit : Environment where
  build stamp c :=
    if c.split then .error (.missingDescriptor c) else .ok (.ofTemplates stamp c .latin fun _ => {})

/-- A program makes requests, one after the other. -/
theorem Program.run_requests {α : Type} (p : Program α) (d : Dispatcher) :
    ReflTransGen Request d (p.run d).2 := by
  induction p generalizing d with
  | done value => exact .refl
  | select layer next ih => exact .head (.select d layer) (ih _ _)
  | requestShift c next ih => exact .head (.queue d (d.pending ++ [c])) (ih _)
  | setTimer running next ih => exact .head (.setTimer d running) (ih _)
  | timerRunning next ih => exact ih d.timerRunning d
  | note notice next ih => exact .head (.note d [notice]) (ih _)

namespace Keyboard

variable {σ : Type} (a : Assembly σ) (k : Keyboard σ)

/-! ### The state machine -/

theorem react_requests (callback : Callback) (c : Capitalization) :
    ReflTransGen Request k.dispatcher (react a k callback c).2.dispatcher :=
  Program.run_requests _ _

/-- **Induction over a replay**: what single updates of the shift state keep, and what depends on
neither the queue nor the reports, is kept by a replay. -/
theorem replay_induction {P : Keyboard σ → Prop}
    (queue : ∀ k pending, P k → P (k.withDispatcher { k.dispatcher with pending }))
    (note : ∀ k notices, P k → P (k.withDispatcher (k.dispatcher.note notices)))
    (updateShift : ∀ k c, P k → P (react a k (.input .updateShift) c).2)
    (budget : Nat) (h : P k) : P (replay a budget k).2 := by
  fun_induction replay a budget k with
  | case1 budget k hp =>
    -- nothing is pending
    exact h
  | case2 k c rest hp =>
    -- the budget is spent, and what is pending is dropped
    exact note _ _ (queue k [] h)
  | case3 k c rest budget hp k' hk ih =>
    have hr := updateShift _ c (queue k rest h)
    rw [hk] at hr
    exact ih hr
  | case4 k c rest budget hp e k' hk =>
    -- the update fails, and what is pending is dropped
    have hr := updateShift _ c (queue k rest h)
    rw [hk] at hr
    exact queue k' [] hr

theorem replay_requests (budget : Nat) :
    ReflTransGen Request k.dispatcher (replay a budget k).2.dispatcher := by
  refine replay_induction a k (P := fun k' => ReflTransGen Request k.dispatcher k'.dispatcher)
    ?_ ?_ ?_ budget .refl
  · intro k' pending h
    exact h.tail (.queue k'.dispatcher pending)
  · intro k' notices h
    exact h.tail (.note k'.dispatcher notices)
  · intro k' c h
    exact h.trans (react_requests a k' (.input .updateShift) c)

theorem drive_requests (callback : Callback) (c : Capitalization) :
    ReflTransGen Request k.dispatcher (drive a k callback c).2.dispatcher :=
  (react_requests a k callback c).trans (replay_requests a _ maxReplays)

theorem select_requests (layer : Layer) :
    ReflTransGen Request k.dispatcher (k.select layer).2.dispatcher :=
  .single (.select k.dispatcher layer)

theorem dispatcher_selectPane (layer : Layer) :
    (k.selectPane layer).2.dispatcher = (k.select layer).2.dispatcher := by
  unfold selectPane
  split <;> rename_i h <;> rw [h]

/-! ### The host -/

/-- A load prepares the layout, and then drives the machine unless that failed. -/
theorem load_eq (request : LoadRequest) (settings : Settings) :
    load a k request settings =
      match k.dispatcher.prepare a.toEnvironment request.editor settings with
      | (.error e, d) => (.error (.build e), k.withDispatcher d)
      | (.ok (), d) => drive a (k.withDispatcher d) .load request.capitalization := rfl

theorem load_moves (request : LoadRequest) (settings : Settings) :
    ReflTransGen (Move a.toEnvironment) k.dispatcher (load a k request settings).2.dispatcher := by
  have hm : Move a.toEnvironment k.dispatcher _ := .prepare _ request.editor settings
  rw [load_eq]
  split <;> rename_i h <;> rw [h] at hm
  · exact .single hm
  · exact .head hm (moves_of_requests _ (drive_requests a (k.withDispatcher _) .load _))

theorem toggleEmoji_moves (request : LoadRequest) :
    ReflTransGen (Move a.toEnvironment) k.dispatcher
      (toggleEmoji a k request).2.dispatcher := by
  have hs : ∀ (k : Keyboard σ) (layer : Layer),
      ReflTransGen (Move a.toEnvironment) k.dispatcher (k.selectPane layer).2.dispatcher := by
    intro k layer
    rw [dispatcher_selectPane]
    exact moves_of_requests _ (k.select_requests layer)
  unfold toggleEmoji
  split_ifs
  · have hl := load_moves a k request k.dispatcher.live
    split <;> rename_i h <;> rw [h] at hl
    · exact hl
    · exact hl.trans (hs _ .emoji)
  · exact hs k .alphabet
  · exact hs k .emoji

theorem save_moves :
    ReflTransGen (Move a.toEnvironment) k.dispatcher (k.save a).dispatcher := by
  have hm : Move a.toEnvironment k.dispatcher _ := .save _
  unfold save
  split <;> rename_i h <;> rw [h] at hm
  · exact .single hm
  · exact .tail (.single hm) (.request (.note _ _))

theorem restore_moves :
    ReflTransGen (Move a.toEnvironment) k.dispatcher k.restore.2.dispatcher := by
  unfold restore
  split
  · exact .refl
  · rename_i layer _
    have hs := moves_of_requests a.toEnvironment (k.select_requests layer)
    split <;> rename_i h <;> rw [h] at hs
    · exact hs
    · exact .tail (.tail hs (.forget _)) (.request (.note _ _))

theorem requestShift_moves (c : Capitalization) :
    ReflTransGen (Move a.toEnvironment) k.dispatcher (k.requestShift a c).dispatcher := by
  have hd := moves_of_requests a.toEnvironment (drive_requests a k (.input .updateShift) c)
  unfold requestShift
  split <;> rename_i h <;> rw [h] at hd
  · exact hd
  · exact .tail hd (.request (.note _ _))

theorem obey_moves (command : Command) :
    ReflTransGen (Move a.toEnvironment) k.dispatcher (k.obey a command).2.dispatcher := by
  cases command with
  | updateTheme id => exact .single (.updateTheme k.dispatcher id)
  | load request settings => exact load_moves a k request settings
  | toggleEmoji request => exact toggleEmoji_moves a k request
  | createView hardwareAcceleration =>
    exact .single (.createView k.dispatcher hardwareAcceleration)
  | destroyView => exact .single (.destroyView k.dispatcher)
  | releaseResources => exact .single (.releaseResources k.dispatcher)
  | hideWindow => exact .single (.hideWindow k.dispatcher)
  | save => exact save_moves a k
  | restore => exact restore_moves a k
  | input i c => exact moves_of_requests _ (drive_requests a k (.input i) c)

theorem perform_moves (operation : Operation) :
    ReflTransGen (Move a.toEnvironment) k.dispatcher (k.perform a operation).2.dispatcher := by
  cases operation with
  | command command => exact obey_moves a k command
  | select layer => exact moves_of_requests _ (k.select_requests layer)
  | requestShift c => exact requestShift_moves a k c
  | setTimer running => exact .single (.request (.setTimer k.dispatcher running))
  | publish settings => exact .single (.publish k.dispatcher settings)
  | setMoreKeys showing => exact .single (.setMoreKeys k.dispatcher showing)

/-- Every run of a host is a chain of moves. -/
theorem performAll_moves (operations : List Operation) :
    ReflTransGen (Move a.toEnvironment) k.dispatcher (k.performAll a operations).dispatcher := by
  induction operations generalizing k with
  | nil => exact .refl
  | cons operation operations ih =>
    exact (perform_moves a k operation).trans (ih (k.perform a operation).2)

end Keyboard

end SoftKeyboard
