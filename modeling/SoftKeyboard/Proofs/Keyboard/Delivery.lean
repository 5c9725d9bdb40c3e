import SoftKeyboard.Proofs.Dispatcher.Frames
import SoftKeyboard.Proofs.Keyboard.Replay

/-!
# Delivery of deferred requests

In one call of the host, the state machine may ask for updates of the shift state in the callback
and in the updates that are replayed after it (`Keyboard.requestsIn`).  `Keyboard.Delivers` says
what becomes of them: the first four are delivered in their order, unless one of them fails, what is
left is dropped, and the call ends with the first error.

`Keyboard.delivers_of_performAll`: so it is in every input and every load of every run, whatever the
machine, and the queue is empty whenever the host has its turn.
-/

namespace SoftKeyboard

open Dispatcher

namespace Keyboard

variable {σ : Type}

/-! ### One call of the machine -/

/-- The updates of the shift state that are replayed after a callback. -/
def updatesIn (a : Assembly σ) (t : Turn σ) : List (Turn σ) := replayTurns a maxReplays (t.after a)

/-- The updates of the shift state that the machine asks for in a callback and in the updates that
are replayed after it, the oldest first. -/
def requestsIn (a : Assembly σ) (t : Turn σ) : List Capitalization :=
  t.requested a ++ (updatesIn a t).flatMap (Turn.requested a)

/-- A callback with the updates that are replayed after it. -/
def driveTurn (a : Assembly σ) (t : Turn σ) : Outcome × Keyboard σ :=
  drive a t.keyboard t.callback t.capitalization

/-- **Delivery of requests** in a callback and in the updates that are replayed after it. -/
structure Delivers (a : Assembly σ) (t : Turn σ) : Prop where
  /-- The machine is told of the callback and then of the updates that it asked for, in the order in
  which it did and just as it did, as many as are replayed; and of nothing else. -/
  signals : (driveTurn a t).2.signals =
    t.keyboard.signals ++ t.signal ::
      ((requestsIn a t).take (updatesIn a t).length).map (Signal.callback (.input .updateShift))
  bounded : (updatesIn a t).length ≤ maxReplays
  /-- If no update fails, as many are replayed as may be; the rest is dropped with one report of
  their number, and the call ends as the callback did. -/
  succeed : (∀ u ∈ updatesIn a t, u.outcome a = .ok ()) →
    (updatesIn a t).length = min maxReplays (requestsIn a t).length ∧
      driveTurn a t =
        (t.outcome a, (afterAll a (t.after a) (updatesIn a t)).concluded maxReplays
          (requestsIn a t).length)
  /-- The report of what was dropped is an error. -/
  reported : ∀ notice ∈ dropNotices maxReplays (requestsIn a t).length, notice.severity = .error
  /-- An update that fails is the last one; the rest is dropped without a report, and the call ends
  with the callback's error or else with the update's. -/
  fail : ∀ u ∈ updatesIn a t, ∀ e, u.outcome a = .error e →
    (updatesIn a t).getLast? = some u ∧
      driveTurn a t = ((t.outcome a).bind fun () => .error e, (u.after a).emptied)
  /-- Nothing is left for a later call. -/
  pending : (driveTurn a t).2.dispatcher.pending = []

theorem driveTurn_eq (a : Assembly σ) (t : Turn σ) :
    driveTurn a t =
      ((t.outcome a).bind fun () => (replay a maxReplays (t.after a)).1,
        (replay a maxReplays (t.after a)).2) := rfl

/-- A replay leaves nothing in the queue. -/
theorem pending_replay (a : Assembly σ) (budget : Nat) (k : Keyboard σ) :
    (replay a budget k).2.dispatcher.pending = [] := by
  by_cases h : ∃ t ∈ replayTurns a budget k, ∃ e, t.outcome a = .error e
  · obtain ⟨t, ht, e, he⟩ := h
    rw [(replay_of_error budget ht he).2]
    rfl
  · have hok : ∀ t ∈ replayTurns a budget k, t.outcome a = .ok () := by
      intro t ht
      cases ho : t.outcome a with
      | ok => rfl
      | error e => exact absurd ⟨t, ht, e, ho⟩ h
    rw [(replay_of_ok budget hok).2]
    rfl

/-- Where nothing is pending and nothing is asked for, no update is replayed. -/
theorem updatesIn_of_requested_eq_nil (a : Assembly σ) {t : Turn σ}
    (hp : t.keyboard.dispatcher.pending = []) (hr : t.requested a = []) : updatesIn a t = [] := by
  have hq : (t.after a).dispatcher.pending = [] := by rw [t.pending_after, hr, List.append_nil, hp]
  unfold updatesIn replayTurns
  rw [hq]

/-- Where nothing is pending and nothing is asked for, the callback is all that happens. -/
theorem driveTurn_of_requested_eq_nil (a : Assembly σ) {t : Turn σ}
    (hp : t.keyboard.dispatcher.pending = []) (hr : t.requested a = []) :
    driveTurn a t = (t.outcome a, t.after a) := by
  have hq : (t.after a).dispatcher.pending = [] := by rw [t.pending_after, hr, List.append_nil, hp]
  rw [driveTurn_eq, replay_of_nil a maxReplays hq]
  refine Prod.ext ?_ rfl
  dsimp only
  cases t.outcome a <;> rfl

/-- A machine that finds the queue empty has its requests delivered. -/
theorem delivers (a : Assembly σ) {t : Turn σ} (h : t.keyboard.dispatcher.pending = []) :
    Delivers a t := by
  -- what is to be replayed is what the callback asked for
  have hp : (t.after a).dispatcher.pending = t.requested a := by
    rw [t.pending_after, h, List.nil_append]
  refine ⟨?_, length_replayTurns_le a maxReplays _, ?_, ?_, ?_, pending_replay a maxReplays _⟩
  · have hs := signals_replay a maxReplays (t.after a)
    rw [map_signal_replayTurns, hp, t.signals_after, List.append_assoc, List.singleton_append] at hs
    exact hs
  · intro hok
    obtain ⟨hlength, hreplay⟩ := replay_of_ok maxReplays hok
    rw [hp] at hlength hreplay
    refine ⟨hlength, ?_⟩
    rw [driveTurn_eq, hreplay]
    cases t.outcome a <;> rfl
  · intro notice hn
    unfold dropNotices at hn
    split_ifs at hn
    · obtain rfl := List.mem_singleton.1 hn
      rfl
    · cases hn
  · intro u hu e he
    obtain ⟨hlast, hreplay⟩ := replay_of_error maxReplays hu he
    refine ⟨hlast, ?_⟩
    rw [driveTurn_eq, hreplay]

end Keyboard

/-! ### The queue between calls -/

namespace Dispatcher

variable (env : Environment) (d : Dispatcher)

theorem pending_updateTheme (id : ThemeId) : (d.updateTheme env id).2.pending = d.pending := by
  rcases d.updateTheme_cases env id with ⟨notices, h⟩ | ⟨notices, h⟩ <;> rw [h]

theorem pending_prepare (editor : Editor) (settings : Settings) :
    (d.prepare env editor settings).2.pending = d.pending := by
  rcases d.prepare_cases env editor settings with
    ⟨-, theme, builds, notices, h⟩ | ⟨e, theme, builds, notices, h⟩ <;> rw [h]

theorem pending_createView (hardwareAcceleration : Bool) :
    (d.createView env hardwareAcceleration).2.pending = d.pending := by
  obtain ⟨view, name, theme, retired, notices, h⟩ := d.exists_createView_eq env hardwareAcceleration
  rw [h]

theorem pending_destroyView : d.destroyView.2.pending = d.pending := by
  obtain ⟨retired, notices, h⟩ := d.exists_destroyView_eq
  rw [h]

theorem pending_releaseResources : d.releaseResources.pending = d.pending := by
  obtain ⟨screen, notices, h⟩ := d.exists_releaseResources_eq
  rw [h]

theorem pending_save : d.save.2.pending = d.pending := by
  obtain ⟨saved, notices, h⟩ := d.exists_save_eq
  rw [h]

theorem pending_setMoreKeys (showing : Bool) : (d.setMoreKeys showing).2.pending = d.pending := by
  obtain ⟨screen, retired, h⟩ := d.exists_setMoreKeys_eq showing
  rw [h]

end Dispatcher

namespace Keyboard

variable {σ : Type} {a : Assembly σ} {k : Keyboard σ}

theorem pending_drive (a : Assembly σ) (k : Keyboard σ) (callback : Callback)
    (c : Capitalization) : (drive a k callback c).2.dispatcher.pending = [] :=
  pending_replay a maxReplays _

theorem pending_load (h : k.dispatcher.pending = []) (request : LoadRequest)
    (settings : Settings) : (load a k request settings).2.dispatcher.pending = [] := by
  have hp := k.dispatcher.pending_prepare a.toEnvironment request.editor settings
  rw [load_eq]
  split <;> rename_i hd <;> rw [hd] at hp
  · exact hp.trans h
  · exact pending_drive a _ .load request.capitalization

theorem pending_selectPane (h : k.dispatcher.pending = []) (layer : Layer) :
    (k.selectPane layer).2.dispatcher.pending = [] := by
  rw [dispatcher_selectPane]
  exact (k.dispatcher.pending_select layer).trans h

theorem pending_toggleEmoji (h : k.dispatcher.pending = []) (request : LoadRequest) :
    (toggleEmoji a k request).2.dispatcher.pending = [] := by
  have hl := pending_load (a := a) h request k.dispatcher.live
  unfold toggleEmoji
  split_ifs
  · split <;> rename_i hd <;> rw [hd] at hl
    · exact hl
    · exact pending_selectPane hl .emoji
  · exact pending_selectPane h .alphabet
  · exact pending_selectPane h .emoji

theorem pending_save (h : k.dispatcher.pending = []) :
    (k.save a).dispatcher.pending = [] := by
  have hs := k.dispatcher.pending_save
  unfold save
  split <;> rename_i hd <;> rw [hd] at hs <;> exact hs.trans h

theorem pending_restore (h : k.dispatcher.pending = []) :
    k.restore.2.dispatcher.pending = [] := by
  unfold restore
  split
  · exact h
  · rename_i layer _
    have hs : (k.select layer).2.dispatcher.pending = [] :=
      (k.dispatcher.pending_select layer).trans h
    split <;> rename_i hr <;> rw [hr] at hs <;> exact hs

theorem pending_requestShift (a : Assembly σ) (k : Keyboard σ) (c : Capitalization) :
    (k.requestShift a c).dispatcher.pending = [] := by
  have hd := pending_drive a k (.input .updateShift) c
  unfold requestShift
  split <;> rename_i hr <;> rw [hr] at hd <;> exact hd

/-- No operation leaves anything in the queue. -/
theorem pending_perform (h : k.dispatcher.pending = []) (operation : Operation) :
    (k.perform a operation).2.dispatcher.pending = [] := by
  cases operation with
  | command command =>
    cases command with
    | updateTheme id => exact (k.dispatcher.pending_updateTheme _ id).trans h
    | load request settings => exact pending_load h request settings
    | toggleEmoji request => exact pending_toggleEmoji h request
    | createView hardwareAcceleration =>
      exact (k.dispatcher.pending_createView _ hardwareAcceleration).trans h
    | destroyView => exact k.dispatcher.pending_destroyView.trans h
    | releaseResources => exact k.dispatcher.pending_releaseResources.trans h
    | hideWindow => exact h
    | save => exact pending_save h
    | restore => exact pending_restore h
    | input i c => exact pending_drive a k (.input i) c
  | select layer => exact (k.dispatcher.pending_select layer).trans h
  | requestShift c => exact pending_requestShift a k c
  | setTimer running => exact h
  | publish settings => exact h
  | setMoreKeys showing => exact (k.dispatcher.pending_setMoreKeys showing).trans h

theorem pending_performAll (h : k.dispatcher.pending = []) (operations : List Operation) :
    (k.performAll a operations).dispatcher.pending = [] := by
  induction operations generalizing k with
  | nil => exact h
  | cons operation operations ih => exact ih (pending_perform h operation)

/-! ### Calls of the host -/

/-- **Deferred requests are delivered in order, boundedly, and never leak.**  After every run the
queue is empty.  Every input that the host then passes on has its requests delivered, and so has
every load that gets its layout; a load that does not tells the machine nothing. -/
theorem delivers_of_performAll (a : Assembly σ) (live : Settings) (position : σ)
    (operations : List Operation) :
    let k := (start live position).performAll a operations
    k.dispatcher.pending = [] ∧
      (∀ i c,
        k.perform a (.command (.input i c)) =
            (.outcome (driveTurn a ⟨k, .input i, c⟩).1, (driveTurn a ⟨k, .input i, c⟩).2) ∧
          Delivers a ⟨k, .input i, c⟩) ∧
      ∀ request settings,
        let prepared := k.dispatcher.prepare a.toEnvironment request.editor settings
        let t : Turn σ := ⟨k.withDispatcher prepared.2, .load, request.capitalization⟩
        k.perform a (.command (.load request settings)) =
            (match prepared.1 with
            | .error e => (.outcome (.error (.build e)), t.keyboard)
            | .ok () => (.outcome (driveTurn a t).1, (driveTurn a t).2)) ∧
          t.keyboard.dispatcher.pending = [] ∧ Delivers a t := by
  intro k
  have h : k.dispatcher.pending = [] := pending_performAll rfl operations
  refine ⟨h, fun i c => ⟨rfl, delivers a h⟩, fun request settings => ?_⟩
  intro prepared t
  have ht : t.keyboard.dispatcher.pending = [] :=
    (k.dispatcher.pending_prepare a.toEnvironment request.editor settings).trans h
  refine ⟨?_, ht, delivers a ht⟩
  show (Reply.outcome (load a k request settings).1, (load a k request settings).2) = _
  rw [load_eq]
  dsimp only [prepared, t]
  rcases k.dispatcher.prepare a.toEnvironment request.editor settings with ⟨e | ⟨⟩, d⟩
  · rfl
  · rfl

/-- A machine that asks for two updates whenever it is told something: of the ten that it asks for
in one call the first four are delivered, and six are dropped. -/
theorem delivers_of_echo :
    let a : Assembly Unit :=
      ⟨.unsplit,
        { react := fun _ c _ =>
            .requestShift c (.requestShift ⟨.words, .none⟩ (.done (.ok (), ())))
          save := fun _ => ([], ()) }⟩
    let t : Turn Unit := ⟨start {} (), .input .updateShift, {}⟩
    (requestsIn a t).length = 10 ∧ (driveTurn a t).1 = .ok () ∧
      (driveTurn a t).2.signals =
        ([{}, {}, ⟨.words, .none⟩, {}, ⟨.words, .none⟩] : List Capitalization).map
          (Signal.callback (.input .updateShift)) ∧
      (driveTurn a t).2.dispatcher.notices = [.droppedRequests 6 4] ∧
      (driveTurn a t).2.dispatcher.pending = [] := by
  intro a t
  obtain ⟨-, hinput, -⟩ := delivers_of_performAll a {} () []
  have h : Delivers a t := (hinput .updateShift {}).2
  -- no update of this machine fails
  obtain ⟨-, hdrive⟩ := h.succeed fun _ _ => rfl
  refine ⟨by decide, ?_, h.signals.trans (by decide), ?_, h.pending⟩
  · rw [hdrive]
    rfl
  · rw [hdrive]
    decide

end Keyboard

end SoftKeyboard
