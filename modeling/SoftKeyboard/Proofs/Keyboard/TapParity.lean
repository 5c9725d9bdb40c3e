import Mathlib.Algebra.Ring.Parity
import Mathlib.Data.List.DropRight
import SoftKeyboard.Proofs.Keyboard.DoubleTap
import SoftKeyboard.Proofs.Keyboard.Reload
import SoftKeyboard.Proofs.Keyboard.Selections

/-!
# The parity of taps

A press of the shift key asks whether the timer of a double tap is running and turns it over.  All
else that the machines do leaves the timer alone (`Keyboard.timerRunning_perform`).  So the timer
counts presses modulo two: as long as the host does not set it, it runs exactly if a view is
attached and the shift key was pressed an odd number of times since the view was attached or last
released what it held on to (`Keyboard.countsTaps_performAll`).

Exactly then a press is the second tap of a double tap, and any other press is a first tap
(`Keyboard.secondTap_iff_odd_taps`).
-/

namespace SoftKeyboard

/-! ### Taps in a run -/

namespace Operation

/-- Whether the shift key is pressed. -/
def pressesShift : Operation → Bool
  | command (.input i _) => Callback.pressesShift (.input i)
  | _ => false

/-- Whether the host starts or cancels the timer of a double tap. -/
def setsTimer : Operation → Bool
  | setTimer _ => true
  | _ => false

/-- Whether taps count from here on: a view is attached, or the view releases what it holds on
to. -/
def restartsTaps : Operation → Bool
  | command (.createView _) | command .releaseResources => true
  | _ => false

/-- How often the shift key was pressed since a view was attached or told to release what it holds
on to, whichever came later. -/
def taps (operations : List Operation) : Nat :=
  (operations.rtakeWhile fun operation => !operation.restartsTaps).countP pressesShift

theorem exists_eq_pressShift {operation : Operation} (h : operation.pressesShift = true) :
    ∃ singlePointer c, operation = pressShift singlePointer c := by
  unfold pressesShift Callback.pressesShift at h
  split at h
  · split at h
    · rename_i i c _ code singlePointer hi
      obtain rfl := Callback.input.inj hi
      obtain rfl := of_decide_eq_true h
      exact ⟨singlePointer, c, rfl⟩
    · cases h
  · cases h

variable (operations : List Operation) {operation : Operation}

theorem taps_concat_of_restarts (h : operation.restartsTaps = true) :
    taps (operations ++ [operation]) = 0 := by
  unfold taps
  rw [List.rtakeWhile_concat, h]
  rfl

theorem taps_concat (h : operation.restartsTaps = false) :
    taps (operations ++ [operation]) =
      taps operations + if operation.pressesShift then 1 else 0 := by
  unfold taps
  rw [List.rtakeWhile_concat, h, Bool.not_false, if_pos rfl, List.countP_append,
    List.countP_singleton]

end Operation

namespace Dispatcher

/-- The timer runs exactly if a view is attached and the number of taps is odd. -/
def CountsTaps (d : Dispatcher) (taps : Nat) : Prop :=
  d.timerRunning = true ↔ d.screen ≠ none ∧ Odd taps

namespace CountsTaps

variable {d d' : Dispatcher} {taps : Nat}

theorem of_screen_eq_none (h : d.screen = none) : d.CountsTaps taps := by
  unfold CountsTaps
  rw [timerRunning_of_screen_eq_none h]
  exact iff_of_false Bool.false_ne_true fun hs => hs.1 h

theorem of_not_running (h : d.timerRunning = false) : d.CountsTaps 0 := by
  unfold CountsTaps
  rw [h]
  exact iff_of_false Bool.false_ne_true fun hs => Nat.not_odd_zero hs.2

theorem of_eq (h : d.CountsTaps taps) (htimer : d'.timerRunning = d.timerRunning)
    (hscreen : d'.screen = none ↔ d.screen = none) : d'.CountsTaps taps := by
  unfold CountsTaps at h ⊢
  rw [htimer, h, Ne, Ne, hscreen]

/-- One tap more turns the timer over, if a view is attached. -/
theorem succ (h : d.CountsTaps taps)
    (htimer : d'.timerRunning = true ↔ d.screen ≠ none ∧ d.timerRunning = false)
    (hscreen : d'.screen = none ↔ d.screen = none) : d'.CountsTaps (taps + 1) := by
  unfold CountsTaps at h ⊢
  rw [htimer, ← Bool.not_eq_true, h, Ne, Ne, hscreen, Nat.odd_add_one]
  tauto

end CountsTaps

end Dispatcher

/-! ### What presses select -/

namespace StateMachine

variable (target position : Layer) (d : Dispatcher)

/-- A move selects its target and ends as the selection does. -/
theorem run_moveTo_eq_select :
    ((moveTo target position).run d).1.1 = (d.select target).1 ∧
      ((moveTo target position).run d).2 = (d.select target).2 := by
  cases h : (d.select target).1 with
  | error e =>
    rw [run_moveTo_of_error target position h]
    exact ⟨rfl, rfl⟩
  | ok =>
    rw [run_moveTo_of_ok target position h]
    exact ⟨rfl, rfl⟩

theorem selections_moveTo : (moveTo target position).selections d = [⟨d, target⟩] := by
  unfold moveTo Program.selections
  cases (d.select target).1 <;> rfl

theorem requested_pressShift : (pressShift position).requested d = [] := by
  unfold pressShift Program.requested
  cases d.timerRunning with
  | true => exact requested_moveTo .alphabetShiftLocked position (d.setTimer false)
  | false => rfl

theorem selections_pressShift :
    (pressShift position).selections d =
      if d.timerRunning then [⟨d.setTimer false, .alphabetShiftLocked⟩] else [] := by
  unfold pressShift Program.selections
  cases d.timerRunning with
  | true => exact selections_moveTo .alphabetShiftLocked position (d.setTimer false)
  | false => rfl

end StateMachine

/-! ### What leaves the timer alone -/

theorem Program.IsPlain.timerRunning_run {p : Program (Outcome × Layer)} {position : Layer}
    (h : p.IsPlain position) (d : Dispatcher) : (p.run d).2.timerRunning = d.timerRunning := by
  cases h with
  | rests h =>
    obtain ⟨pending, notices, hrun⟩ := h.exists_run_eq d
    rw [hrun]
    rfl
  | moveTo target =>
    rw [(StateMachine.run_moveTo_eq_select target position d).2]
    exact d.timerRunning_select target

namespace Keyboard

open Dispatcher Operation StateMachine

variable {a : Assembly Layer}

section Timer

variable (hm : a.machine.AnswersPlainly) (k : Keyboard Layer)

include hm

theorem timerRunning_react (callback : Callback) (hc : callback.pressesShift = false)
    (c : Capitalization) :
    (react a k callback c).2.dispatcher.timerRunning = k.dispatcher.timerRunning := by
  have hp : (a.machine.react callback c k.position).IsPlain k.position := by
    refine (hm.react callback c k.position).resolve_right fun h => ?_
    cases hc.symm.trans h.1
  exact hp.timerRunning_run k.dispatcher

theorem timerRunning_replay (budget : Nat) :
    (replay a budget k).2.dispatcher.timerRunning = k.dispatcher.timerRunning := by
  refine replay_induction a k
    (P := fun k' => k'.dispatcher.timerRunning = k.dispatcher.timerRunning) ?_ ?_ ?_ budget rfl
  · exact fun _ _ h => h
  · exact fun _ _ h => h
  · exact fun k' c h => (timerRunning_react hm k' _ rfl c).trans h

theorem timerRunning_drive (callback : Callback) (hc : callback.pressesShift = false)
    (c : Capitalization) :
    (drive a k callback c).2.dispatcher.timerRunning = k.dispatcher.timerRunning :=
  (timerRunning_replay hm _ maxReplays).trans (timerRunning_react hm k callback hc c)

theorem timerRunning_load (request : LoadRequest) (settings : Settings) :
    (load a k request settings).2.dispatcher.timerRunning = k.dispatcher.timerRunning := by
  have hd := timerRunning_congr
    (k.dispatcher.sameViews_prepare a.toEnvironment request.editor settings).1
  rw [load_eq]
  split <;> rename_i hp <;> rw [hp] at hd
  · exact hd
  · exact (timerRunning_drive hm _ .load rfl request.capitalization).trans hd

omit hm in
theorem timerRunning_selectPane (layer : Layer) :
    (k.selectPane layer).2.dispatcher.timerRunning = k.dispatcher.timerRunning := by
  rw [dispatcher_selectPane]
  exact k.dispatcher.timerRunning_select layer

theorem timerRunning_toggleEmoji (request : LoadRequest) :
    (toggleEmoji a k request).2.dispatcher.timerRunning = k.dispatcher.timerRunning := by
  have hl := timerRunning_load hm k request k.dispatcher.live
  unfold toggleEmoji
  split_ifs
  · split <;> rename_i hr <;> rw [hr] at hl
    · exact hl
    · exact (timerRunning_selectPane _ .emoji).trans hl
  · exact timerRunning_selectPane k .alphabet
  · exact timerRunning_selectPane k .emoji

omit hm in
theorem timerRunning_restore :
    k.restore.2.dispatcher.timerRunning = k.dispatcher.timerRunning := by
  rcases restore_cases k with ⟨-, h⟩ | ⟨layer, -, ⟨e, -, h⟩ | ⟨-, notices, h⟩⟩ <;> rw [h]
  · exact k.dispatcher.timerRunning_select layer
  · exact k.dispatcher.timerRunning_select layer

theorem timerRunning_requestShift (c : Capitalization) :
    (k.requestShift a c).dispatcher.timerRunning = k.dispatcher.timerRunning := by
  have hd := timerRunning_drive hm k (.input .updateShift) rfl c
  unfold requestShift
  split <;> rename_i hr <;> rw [hr] at hd <;> exact hd

/-- **What leaves the timer alone**: every operation but those that attach a view, detach it or have
it release what it holds on to, those that set the timer, and presses of the shift key. -/
theorem timerRunning_perform {operation : Operation} (hset : operation.setsTimer = false)
    (hrestart : operation.restartsTaps = false) (hdetach : ¬DetachesView k operation)
    (hpress : operation.pressesShift = false) :
    (k.perform a operation).2.dispatcher.timerRunning = k.dispatcher.timerRunning := by
  cases operation with
  | command command =>
    cases command with
    | updateTheme id => exact timerRunning_congr (sameViews_updateTheme _ k.dispatcher id).1
    | load request settings => exact timerRunning_load hm k request settings
    | toggleEmoji request => exact timerRunning_toggleEmoji hm k request
    | createView hardwareAcceleration => cases hrestart
    | destroyView => exact absurd rfl hdetach
    | releaseResources => cases hrestart
    | hideWindow => exact k.dispatcher.timerRunning_hideWindow
    | save => exact timerRunning_congr (footing_save a k).2
    | restore => exact timerRunning_restore k
    | input i c => exact timerRunning_drive hm k (.input i) hpress c
  | select layer => exact k.dispatcher.timerRunning_select layer
  | requestShift c => exact timerRunning_requestShift hm k c
  | setTimer running => cases hset
  | publish settings => rfl
  | setMoreKeys showing => exact k.dispatcher.timerRunning_setMoreKeys showing

end Timer

/-! ### Presses -/

/-- The operation is the second tap of a double tap: the timer was running and is cancelled, and
then the locked layer is selected, once, whether that succeeds or not. -/
structure SecondTap (a : Assembly Layer) (k : Keyboard Layer) (operation : Operation) : Prop where
  running : k.dispatcher.timerRunning = true
  selections : selections a k operation = [⟨k.dispatcher.setTimer false, .alphabetShiftLocked⟩]
  outcome : (k.perform a operation).1 =
    .outcome ((k.dispatcher.setTimer false).select .alphabetShiftLocked).1
  dispatcher : (k.perform a operation).2.dispatcher =
    ((k.dispatcher.setTimer false).select .alphabetShiftLocked).2
  cancelled : (k.perform a operation).2.dispatcher.timerRunning = false

/-- The operation is a first tap: it selects nothing and starts the timer, which runs afterwards if
a view is attached. -/
structure FirstTap (a : Assembly Layer) (k : Keyboard Layer) (operation : Operation) : Prop where
  selections : selections a k operation = []
  outcome : (k.perform a operation).1 = .outcome (.ok ())
  dispatcher : (k.perform a operation).2.dispatcher = k.dispatcher.setTimer true
  armed : k.dispatcher.screen ≠ none → (k.perform a operation).2.dispatcher.timerRunning = true

section Presses

variable (ht : a.machine.TapsShift) {k : Keyboard Layer} (hp : k.dispatcher.pending = [])
  {singlePointer : Bool} {c : Capitalization}

include ht hp

/-- A press of the shift key does what its program does and nothing else: it asks for no updates. -/
theorem perform_pressShift :
    (k.perform a (Operation.pressShift singlePointer c)).1 =
        .outcome ((StateMachine.pressShift k.position).run k.dispatcher).1.1 ∧
      (k.perform a (Operation.pressShift singlePointer c)).2.dispatcher =
        ((StateMachine.pressShift k.position).run k.dispatcher).2 ∧
      selections a k (Operation.pressShift singlePointer c) =
        (StateMachine.pressShift k.position).selections k.dispatcher := by
  let t : Turn Layer := ⟨k, .input (.press .shift singlePointer), c⟩
  have hr : t.requested a = [] := by
    show (a.machine.react t.callback c k.position).requested k.dispatcher = []
    rw [ht.press, requested_pressShift]
  have hdrive := driveTurn_of_requested_eq_nil a hp hr
  have hupdates := updatesIn_of_requested_eq_nil a hp hr
  rw [← ht.press singlePointer c k.position]
  refine ⟨?_, ?_, ?_⟩
  · show Reply.outcome (driveTurn a t).1 = _
    rw [hdrive]
    rfl
  · show (driveTurn a t).2.dispatcher = _
    rw [hdrive]
    rfl
  · show t.selections a ++ (updatesIn a t).flatMap (Turn.selections a) = _
    rw [hupdates, List.flatMap_nil, List.append_nil]
    rfl

theorem secondTap_of_running (h : k.dispatcher.timerRunning = true) :
    SecondTap a k (Operation.pressShift singlePointer c) := by
  obtain ⟨houtcome, hdispatcher, hselections⟩ := perform_pressShift ht hp
  obtain ⟨hmove, hmoved⟩ :=
    run_moveTo_eq_select .alphabetShiftLocked k.position (k.dispatcher.setTimer false)
  rw [run_pressShift_of_timerRunning k.position h, hmove] at houtcome
  rw [run_pressShift_of_timerRunning k.position h, hmoved] at hdispatcher
  rw [selections_pressShift, if_pos h] at hselections
  refine ⟨h, hselections, houtcome, hdispatcher, ?_⟩
  rw [hdispatcher, timerRunning_select, timerRunning_setTimer, Bool.and_false]

theorem firstTap_of_idle (h : k.dispatcher.timerRunning = false) :
    FirstTap a k (Operation.pressShift singlePointer c) := by
  obtain ⟨houtcome, hdispatcher, hselections⟩ := perform_pressShift ht hp
  rw [run_pressShift_of_not_timerRunning k.position h] at houtcome hdispatcher
  rw [selections_pressShift, if_neg (Bool.eq_false_iff.1 h)] at hselections
  refine ⟨hselections, houtcome, hdispatcher, fun hscreen => ?_⟩
  rw [hdispatcher, timerRunning_setTimer, Bool.and_true]
  exact Option.isSome_iff_ne_none.2 hscreen

/-- A press turns the timer over, if a view is attached. -/
theorem timerRunning_pressShift :
    (k.perform a (Operation.pressShift singlePointer c)).2.dispatcher.timerRunning = true ↔
      k.dispatcher.screen ≠ none ∧ k.dispatcher.timerRunning = false := by
  cases h : k.dispatcher.timerRunning with
  | true =>
    rw [(secondTap_of_running ht hp h).cancelled]
    exact iff_of_false Bool.false_ne_true fun h => nomatch h.2
  | false =>
    rw [(firstTap_of_idle ht hp h).dispatcher, timerRunning_setTimer, Bool.and_true,
      Option.isSome_iff_ne_none, and_iff_left rfl]

end Presses

/-! ### Runs -/

theorem timerRunning_of_restarts {k : Keyboard Layer} {operation : Operation}
    (h : operation.restartsTaps = true) :
    (k.perform a operation).2.dispatcher.timerRunning = false := by
  unfold Operation.restartsTaps at h
  split at h
  · exact timerRunning_createView a.toEnvironment k.dispatcher _
  · exact k.dispatcher.timerRunning_releaseResources
  · cases h

/-- **One operation** keeps the timer in step with the number of taps. -/
theorem countsTaps_perform (hm : a.machine.AnswersPlainly) (ht : a.machine.TapsShift)
    {k : Keyboard Layer} (hp : k.dispatcher.pending = []) {operations : List Operation}
    {operation : Operation} (hset : operation.setsTimer = false)
    (h : k.dispatcher.CountsTaps (Operation.taps operations)) :
    (k.perform a operation).2.dispatcher.CountsTaps
      (Operation.taps (operations ++ [operation])) := by
  by_cases hrestart : operation.restartsTaps = true
  · -- the timer is off, and no tap counts yet
    rw [Operation.taps_concat_of_restarts operations hrestart]
    exact .of_not_running (timerRunning_of_restarts hrestart)
  · rw [Bool.not_eq_true] at hrestart
    have hattach : ¬AttachesView k operation := by
      rintro ⟨hardwareAcceleration, rfl⟩
      cases hrestart
    rw [Operation.taps_concat operations hrestart]
    by_cases hdetach : DetachesView k operation
    · -- without a view no timer runs, however many taps there were
      obtain rfl := hdetach
      exact .of_screen_eq_none (footing_destroyView k.dispatcher).2.1
    · have hscreen := screen_perform (a := a) hattach hdetach
      by_cases hpress : operation.pressesShift = true
      · -- a press turns the timer over
        obtain ⟨singlePointer, c, rfl⟩ := Operation.exists_eq_pressShift hpress
        rw [if_pos hpress]
        exact h.succ (timerRunning_pressShift ht hp) hscreen
      · rw [if_neg hpress]
        rw [Bool.not_eq_true] at hpress
        exact h.of_eq (timerRunning_perform hm k hset hrestart hdetach hpress) hscreen

/-- **The timer counts taps** modulo two, as long as the host does not set it. -/
theorem countsTaps_performAll (hm : a.machine.AnswersPlainly) (ht : a.machine.TapsShift)
    (live : Settings) (position : Layer) {operations : List Operation}
    (hset : ∀ operation ∈ operations, operation.setsTimer = false) :
    ((start live position).performAll a operations).dispatcher.CountsTaps
      (Operation.taps operations) := by
  -- taps are counted back from the end of the run, so the induction adds operations there
  induction operations using List.reverseRecOn with
  | nil => exact .of_screen_eq_none rfl
  | append_singleton operations operation ih =>
    rw [performAll_concat]
    have hpending : ((start live position).performAll a operations).dispatcher.pending = [] :=
      pending_performAll rfl operations
    refine countsTaps_perform hm ht hpending ?_ (ih fun o ho => ?_)
    · exact hset operation (List.mem_append_right _ (List.mem_singleton_self operation))
    · exact hset o (List.mem_append_left _ ho)

/-- **Double taps go by parity.**  Take any run of a keyboard with the basic or the extended machine
in which the host does not set the timer itself, whatever else it does and whatever fails.  A press
of the shift key is the second tap of a double tap, which cancels the timer and tries to lock,
exactly if a view is attached and the shift key was pressed an odd number of times since that view
was attached or last released what it holds on to.  Otherwise it is a first tap, which selects
nothing and starts the timer of the view, if there is one. -/
theorem secondTap_iff_odd_taps (a : Assembly Layer)
    (ha : a.machine = .basic ∨ a.machine = .extended) (live : Settings) (position : Layer)
    (operations : List Operation)
    (hset : ∀ operation ∈ operations, operation.setsTimer = false) (singlePointer : Bool)
    (c : Capitalization) :
    let k := (start live position).performAll a operations
    let press := Operation.pressShift singlePointer c
    (SecondTap a k press ↔ k.dispatcher.screen ≠ none ∧ Odd (Operation.taps operations)) ∧
      (¬(k.dispatcher.screen ≠ none ∧ Odd (Operation.taps operations)) → FirstTap a k press) := by
  intro k press
  have hm : a.machine.AnswersPlainly := by
    rcases ha with ha | ha <;> rw [ha]
    · exact answersPlainly_basic
    · exact answersPlainly_extended
  have ht : a.machine.TapsShift := by
    rcases ha with ha | ha <;> rw [ha]
    · exact tapsShift_basic
    · exact tapsShift_extended
  have hp : k.dispatcher.pending = [] := pending_performAll rfl operations
  have hcounts : k.dispatcher.timerRunning = true ↔ _ :=
    countsTaps_performAll hm ht live position hset
  rw [← hcounts]
  exact ⟨⟨SecondTap.running, secondTap_of_running ht hp⟩,
    fun h => firstTap_of_idle ht hp (Bool.not_eq_true _ ▸ h)⟩

/-- A press while no view is attached does not count.  Of the next two, on a view without a layout,
the second one fails to lock and has cancelled the timer.  So the press after the layout was loaded
is a first tap, and the one after that locks. -/
theorem secondTap_after_failed_lock :
    let a : Assembly Layer := ⟨.unsplit, .extended⟩
    let press := Operation.pressShift true {}
    let attached := (start {} .alphabet).performAll a [press, .command (.createView false), press]
    let loaded := (start {} .alphabet).performAll a
      [press, .command (.createView false), press, press, .command (.load {} {}), press]
    FirstTap a (start {} .alphabet) press ∧ SecondTap a attached press ∧
      (attached.perform a press).1.error? = some (.noLayout .alphabetShiftLocked) ∧
      SecondTap a loaded press ∧ (loaded.perform a press).1.error? = none := by
  intro a press attached loaded
  have hdetached : FirstTap a (start {} .alphabet) press :=
    (secondTap_iff_odd_taps a (.inr rfl) {} .alphabet [] (by decide) true {}).2 (by decide)
  have hattached : SecondTap a attached press :=
    (secondTap_iff_odd_taps a (.inr rfl) {} .alphabet
      [press, .command (.createView false), press] (by decide) true {}).1.2
      ⟨by decide, by decide⟩
  have hloaded : SecondTap a loaded press :=
    (secondTap_iff_odd_taps a (.inr rfl) {} .alphabet
      [press, .command (.createView false), press, press, .command (.load {} {}), press]
      (by decide) true {}).1.2 ⟨by decide, by decide⟩
  exact ⟨hdetached, hattached, by decide, hloaded, by decide⟩

end Keyboard

end SoftKeyboard
