import SoftKeyboard.Proofs.Keyboard.Moves

/-!
# Deferred updates of the shift state

While a callback runs, the state machine may ask for updates of the shift state.  They are queued,
and `Keyboard.replay` runs them afterwards, together with those that they ask for in turn.

* `Program.requested` is what a program asks for when it is run, and `Program.pending_run` says that
  the queue grows by just that.
* A `Keyboard.Turn` is a callback with the keyboard that it finds, and `Keyboard.replayTurns` lists
  the updates that a replay runs.
* A replay runs what was asked for in the order in which it was asked for
  (`Keyboard.map_signal_replayTurns`), at most as much as its budget allows
  (`Keyboard.length_replayTurns_le`), and all of that unless an update fails
  (`Keyboard.replay_of_ok`, `Keyboard.replay_of_error`).

The lemmas on whole replays are proved by induction along `Keyboard.replayTurns`, whose four cases
are those of `Keyboard.replay`: nothing is pending, the budget is spent, an update succeeds, one
fails.
-/

namespace SoftKeyboard

open Dispatcher

/-! ### What a program asks for -/

theorem Dispatcher.pending_select (d : Dispatcher) (layer : Layer) :
    (d.select layer).2.pending = d.pending := by
  cases hl : d.layout with
  | none => rw [select_of_layout_eq_none layer hl, note]
  | some layout =>
    cases hs : d.screen with
    | none => rw [select_of_screen_eq_none layer hl hs, note]
    | some s =>
      obtain ⟨s', notices, -, h⟩ := d.exists_selectOn_eq layout s layer
      rw [select_of_eq_some layer hl hs, h, note]

namespace Program

variable {α : Type}

/-- The updates of the shift state that a program asks for when it is run, the oldest first. -/
def requested : Program α → Dispatcher → List Capitalization
  | .done _, _ => []
  | .select layer next, d => (next (d.select layer).1).requested (d.select layer).2
  | .requestShift c next, d => c :: next.requested { d with pending := d.pending ++ [c] }
  | .setTimer running next, d => next.requested (d.setTimer running)
  | .timerRunning next, d => (next d.timerRunning).requested d
  | .note notice next, d => next.requested (d.note [notice])

/-- What a program asks for is queued behind what is pending. -/
theorem pending_run (p : Program α) (d : Dispatcher) :
    (p.run d).2.pending = d.pending ++ p.requested d := by
  induction p generalizing d with
  | done value => exact (List.append_nil d.pending).symm
  | select layer next ih =>
    rw [run, requested, ih, d.pending_select]
  | requestShift c next ih =>
    rw [run, requested, ih, List.append_assoc, List.singleton_append]
  | setTimer running next ih => exact ih _
  | timerRunning next ih => exact ih d.timerRunning d
  | note notice next ih => exact ih _

end Program

namespace Keyboard

variable {σ : Type}

/-! ### Turns -/

/-- A callback with the keyboard that it finds. -/
structure Turn (σ : Type) where
  keyboard : Keyboard σ
  callback : Callback
  capitalization : Capitalization

namespace Turn

variable (a : Assembly σ) (t : Turn σ)

/-- How the callback ends. -/
def outcome : Outcome := (react a t.keyboard t.callback t.capitalization).1

/-- The keyboard after the callback. -/
def after : Keyboard σ := (react a t.keyboard t.callback t.capitalization).2

/-- The updates of the shift state that the machine asks for during the callback. -/
def requested : List Capitalization :=
  (a.machine.react t.callback t.capitalization t.keyboard.position).requested t.keyboard.dispatcher

/-- What the machine is told. -/
def signal : Signal := .callback t.callback t.capitalization

theorem pending_after :
    (t.after a).dispatcher.pending = t.keyboard.dispatcher.pending ++ t.requested a :=
  Program.pending_run _ _

theorem signals_after : (t.after a).signals = t.keyboard.signals ++ [t.signal] := rfl

end Turn

/-- The update of the shift state at the head of the queue, with the keyboard that has taken it from
there. -/
def updateTurn (k : Keyboard σ) (c : Capitalization) (rest : List Capitalization) : Turn σ :=
  ⟨k.withDispatcher { k.dispatcher with pending := rest }, .input .updateShift, c⟩

/-- The updates of the shift state that a replay runs. -/
def replayTurns (a : Assembly σ) : Nat → Keyboard σ → List (Turn σ)
  | budget, k =>
    match k.dispatcher.pending, budget with
    | [], _ => []
    | _ :: _, 0 => []
    | c :: rest, budget + 1 =>
      let t := k.updateTurn c rest
      match t.outcome a with
      | .ok () => t :: replayTurns a budget (t.after a)
      | .error _ => [t]

/-- The keyboard that the last of some turns leaves behind. -/
def afterAll (a : Assembly σ) (k : Keyboard σ) (turns : List (Turn σ)) : Keyboard σ :=
  (turns.getLast?.map (Turn.after a)).getD k

/-- The keyboard with an empty queue. -/
def emptied (k : Keyboard σ) : Keyboard σ := k.withDispatcher { k.dispatcher with pending := [] }

/-- What a replay reports that had `count` requests to run on its budget: if they were too many, how
many it dropped. -/
def dropNotices (budget count : Nat) : List Notice :=
  if budget < count then [.droppedRequests (count - budget) maxReplays] else []

/-- The keyboard after a replay of `count` requests: the queue is empty, and what was dropped is
reported. -/
def concluded (k : Keyboard σ) (budget count : Nat) : Keyboard σ :=
  k.emptied.withDispatcher (k.emptied.dispatcher.note (dropNotices budget count))

theorem concluded_of_nil {k : Keyboard σ} (budget : Nat) (h : k.dispatcher.pending = []) :
    k.concluded budget 0 = k := by
  obtain ⟨d, position, signals⟩ := k
  obtain ⟨live, texts, theme, layout, screen, retired, hardware, saved, pending, builds, notices⟩ :=
    d
  obtain rfl : pending = [] := h
  unfold concluded dropNotices
  rw [if_neg (Nat.not_lt_zero budget), note, List.append_nil]
  rfl

theorem dropNotices_succ (budget count : Nat) :
    dropNotices (budget + 1) (count + 1) = dropNotices budget count := by
  unfold dropNotices
  simp only [Nat.add_lt_add_iff_right, Nat.add_sub_add_right]

/-! ### One step of a replay -/

section Steps

variable (a : Assembly σ) {k : Keyboard σ} {c : Capitalization} {rest : List Capitalization}

theorem replay_of_nil (budget : Nat) (h : k.dispatcher.pending = []) :
    replay a budget k = (.ok (), k) := by
  unfold replay
  rw [h]

theorem replay_zero_of_cons (h : k.dispatcher.pending = c :: rest) :
    replay a 0 k =
      (.ok (), k.emptied.withDispatcher
        (k.emptied.dispatcher.note [.droppedRequests (rest.length + 1) maxReplays])) := by
  unfold replay
  rw [h]
  rfl

theorem replay_succ_of_cons (budget : Nat) (h : k.dispatcher.pending = c :: rest) :
    replay a (budget + 1) k =
      match (k.updateTurn c rest).outcome a with
      | .ok () => replay a budget ((k.updateTurn c rest).after a)
      | .error e => (.error e, ((k.updateTurn c rest).after a).emptied) := by
  conv => lhs; unfold replay
  rw [h]
  dsimp only [Turn.outcome, Turn.after, updateTurn]
  split <;> rename_i hr <;> rw [hr]
  rfl

end Steps

/-! ### Whole replays -/

section Replays

variable (a : Assembly σ) (budget : Nat) (k : Keyboard σ)

/-- The machine is told of the updates that the replay runs, and of nothing else. -/
theorem signals_replay :
    (replay a budget k).2.signals =
      k.signals ++ (replayTurns a budget k).map Turn.signal := by
  fun_induction replayTurns a budget k with
  | case1 budget k hp => rw [replay_of_nil a budget hp, List.map_nil, List.append_nil]
  | case2 k c rest hp =>
    rw [replay_zero_of_cons a hp, List.map_nil, List.append_nil]
    rfl
  | case3 k c rest budget hp t ho ih =>
    rw [replay_succ_of_cons a budget hp, ho]
    dsimp only
    rw [ih, t.signals_after, List.map_cons, List.append_assoc, List.singleton_append]
    rfl
  | case4 k c rest budget hp t e ho =>
    rw [replay_succ_of_cons a budget hp, ho]
    rfl

/-- A replay runs what is asked for in the order in which it is asked for, each update just as it
was asked for. -/
theorem map_signal_replayTurns :
    (replayTurns a budget k).map Turn.signal =
      ((k.dispatcher.pending ++ (replayTurns a budget k).flatMap (Turn.requested a)).take
        (replayTurns a budget k).length).map (Signal.callback (.input .updateShift)) := by
  fun_induction replayTurns a budget k with
  | case1 budget k hp => rfl
  | case2 k c rest hp => rfl
  | case3 k c rest budget hp t ho ih =>
    rw [t.pending_after] at ih
    rw [List.map_cons, ih, hp, List.flatMap_cons, ← List.append_assoc, List.length_cons,
      List.cons_append, List.cons_append, List.take_succ_cons, List.map_cons]
    rfl
  | case4 k c rest budget hp t e ho =>
    rw [hp]
    rfl

theorem length_replayTurns_le : (replayTurns a budget k).length ≤ budget := by
  fun_induction replayTurns a budget k with
  | case1 budget k hp => exact Nat.zero_le budget
  | case2 k c rest hp => exact Nat.le_refl 0
  | case3 k c rest budget hp t ho ih => exact Nat.succ_le_succ ih
  | case4 k c rest budget hp t e ho => exact Nat.succ_le_succ (Nat.zero_le budget)

variable {a k} in
/-- If no update fails, a replay runs as many as its budget allows, and drops and reports the
rest. -/
theorem replay_of_ok (h : ∀ t ∈ replayTurns a budget k, t.outcome a = .ok ()) :
    (replayTurns a budget k).length =
        min budget
          (k.dispatcher.pending ++ (replayTurns a budget k).flatMap (Turn.requested a)).length ∧
      replay a budget k =
        (.ok (), (afterAll a k (replayTurns a budget k)).concluded budget
          (k.dispatcher.pending ++
            (replayTurns a budget k).flatMap (Turn.requested a)).length) := by
  fun_induction replayTurns a budget k with
  | case1 budget k hp =>
    rw [replay_of_nil a budget hp, hp]
    refine ⟨(Nat.min_zero budget).symm, ?_⟩
    rw [List.flatMap_nil, List.append_nil, List.length_nil, afterAll]
    exact congrArg _ (concluded_of_nil budget hp).symm
  | case2 k c rest hp =>
    rw [replay_zero_of_cons a hp, hp, List.flatMap_nil, List.append_nil]
    exact ⟨(Nat.zero_min _).symm, rfl⟩
  | case3 k c rest budget hp t ho ih =>
    obtain ⟨hlength, hreplay⟩ := ih fun u hu => h u (List.mem_cons_of_mem _ hu)
    rw [t.pending_after] at hlength hreplay
    -- the requests are the one at the head, and those that the rest of the replay has to run
    have hcount : k.dispatcher.pending ++
        (t :: replayTurns a budget (t.after a)).flatMap (Turn.requested a) =
          c :: (rest ++ t.requested a ++
            (replayTurns a budget (t.after a)).flatMap (Turn.requested a)) := by
      rw [hp, List.flatMap_cons, List.cons_append, List.append_assoc]
    rw [hcount, List.length_cons, List.length_cons, hlength, replay_succ_of_cons a budget hp, ho]
    refine ⟨(Nat.succ_min_succ _ _).symm, ?_⟩
    dsimp only
    rw [hreplay, concluded, concluded, dropNotices_succ, afterAll, afterAll, List.getLast?_cons]
    cases (replayTurns a budget (t.after a)).getLast? <;> rfl
  | case4 k c rest budget hp t e ho =>
    rw [h t (List.mem_singleton_self t)] at ho
    cases ho

variable {a k} in
/-- An update that fails is the last one, and all that is still asked for is dropped. -/
theorem replay_of_error {t : Turn σ} {e : KeyboardError} (ht : t ∈ replayTurns a budget k)
    (he : t.outcome a = .error e) :
    (replayTurns a budget k).getLast? = some t ∧
      replay a budget k = (.error e, (t.after a).emptied) := by
  fun_induction replayTurns a budget k with
  | case1 budget k hp => cases ht
  | case2 k c rest hp => cases ht
  | case3 k c rest budget hp u ho ih =>
    rcases List.mem_cons.1 ht with rfl | ht
    · rw [ho] at he
      cases he
    · obtain ⟨hlast, hreplay⟩ := ih ht
      rw [List.getLast?_cons, hlast, replay_succ_of_cons a budget hp, ho]
      exact ⟨rfl, hreplay⟩
  | case4 k c rest budget hp u e' ho =>
    obtain rfl := List.mem_singleton.1 ht
    obtain rfl : e' = e := Except.error.inj (ho.symm.trans he)
    rw [replay_succ_of_cons a budget hp, ho]
    exact ⟨rfl, rfl⟩

end Replays

end Keyboard

end SoftKeyboard
