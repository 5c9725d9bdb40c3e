import SoftKeyboard.Proofs.Keyboard.Delivery
import SoftKeyboard.Proofs.Keyboard.Loading

/-!
# The selections of an operation

A layer is selected by the host, be it directly, by toggling or by restoring, or by the state
machine, in a callback or in the updates of the shift state that are replayed after it.
`Keyboard.selections` lists the selections that an operation makes, in their order and each with the
dispatcher that it finds.

Where a selection finds the dispatcher is said once (`Keyboard.mem_selections_cases`): in or after
the load that the operation makes, or where requests alone have led from the start of the operation.
So what holds along all moves holds there (`Keyboard.moves_of_mem_selections`).
-/

namespace SoftKeyboard

open Relation Dispatcher

/-- A selection of a layer, with the dispatcher that it finds. -/
structure Selection where
  finds : Dispatcher
  layer : Layer

namespace Selection

/-- How the selection ends. -/
def outcome (s : Selection) : Outcome := (s.finds.select s.layer).1

/-- The dispatcher after the selection. -/
def after (s : Selection) : Dispatcher := (s.finds.select s.layer).2

end Selection

namespace Program

variable {α : Type}

/-- The selections that a program makes when it is run. -/
def selections : Program α → Dispatcher → List Selection
  | .done _, _ => []
  | .select layer next, d => ⟨d, layer⟩ :: (next (d.select layer).1).selections (d.select layer).2
  | .requestShift c next, d => next.selections { d with pending := d.pending ++ [c] }
  | .setTimer running next, d => next.selections (d.setTimer running)
  | .timerRunning next, d => (next d.timerRunning).selections d
  | .note notice next, d => next.selections (d.note [notice])

/-- What a selection of a program finds, the requests of the program have led to. -/
theorem requests_of_mem_selections {p : Program α} {d : Dispatcher} {s : Selection}
    (h : s ∈ p.selections d) : ReflTransGen Request d s.finds := by
  induction p generalizing d with
  | done value => cases h
  | select layer next ih =>
    rcases List.mem_cons.1 h with rfl | h
    · exact .refl
    · exact .head (.select d layer) (ih _ h)
  | requestShift c next ih => exact .head (.queue d (d.pending ++ [c])) (ih h)
  | setTimer running next ih => exact .head (.setTimer d running) (ih h)
  | timerRunning next ih => exact ih d.timerRunning h
  | note notice next ih => exact .head (.note d [notice]) (ih h)

end Program

namespace Keyboard

variable {σ : Type}

/-! ### Lists of selections -/

/-- The selections that the machine makes in a callback. -/
def Turn.selections (a : Assembly σ) (t : Turn σ) : List Selection :=
  (a.machine.react t.callback t.capitalization t.keyboard.position).selections
    t.keyboard.dispatcher

/-- The selections that the machine makes in a callback and in the updates that are replayed after
it. -/
def driveSelections (a : Assembly σ) (t : Turn σ) : List Selection :=
  t.selections a ++ (updatesIn a t).flatMap (Turn.selections a)

/-- The selections of a load: none if it does not get its layout. -/
def loadSelections (a : Assembly σ) (k : Keyboard σ) (request : LoadRequest)
    (settings : Settings) : List Selection :=
  match k.dispatcher.prepare a.toEnvironment request.editor settings with
  | (.error _, _) => []
  | (.ok (), d) => driveSelections a ⟨k.withDispatcher d, .load, request.capitalization⟩

/-- The selections of an operation, in their order. -/
def selections (a : Assembly σ) (k : Keyboard σ) : Operation → List Selection
  | .command (.load request settings) => loadSelections a k request settings
  | .command (.toggleEmoji request) =>
    if k.dispatcher.layout.isNone then
      loadSelections a k request k.dispatcher.live ++
        match load a k request k.dispatcher.live with
        | (.error _, _) => []
        | (.ok (), k') => [⟨k'.dispatcher, .emoji⟩]
    else [⟨k.dispatcher, if k.dispatcher.showsEmoji then .alphabet else .emoji⟩]
  | .command .restore => k.dispatcher.saved.toList.map (Selection.mk k.dispatcher)
  | .command (.input i c) => driveSelections a ⟨k, .input i, c⟩
  | .select layer => [⟨k.dispatcher, layer⟩]
  | .requestShift c => driveSelections a ⟨k, .input .updateShift, c⟩
  | _ => []

/-! ### What selections find -/

variable {a : Assembly σ} {k : Keyboard σ} {s : Selection}

/-- What an update of a replay finds, requests of the machine have led to. -/
theorem requests_of_mem_replayTurns {budget : Nat} {t : Turn σ} (h : t ∈ replayTurns a budget k) :
    ReflTransGen Request k.dispatcher t.keyboard.dispatcher := by
  fun_induction replayTurns a budget k with
  | case1 budget k hp => cases h
  | case2 k c rest hp => cases h
  | case3 k c rest budget hp u ho ih =>
    have hu : Request k.dispatcher u.keyboard.dispatcher := .queue k.dispatcher rest
    rcases List.mem_cons.1 h with rfl | h
    · exact .single hu
    · exact .head hu ((react_requests a u.keyboard u.callback u.capitalization).trans (ih h))
  | case4 k c rest budget hp u e ho =>
    obtain rfl := List.mem_singleton.1 h
    exact .single (.queue k.dispatcher rest)

/-- After the callback, requests lead to whatever a selection of the machine finds. -/
theorem requests_of_mem_updates {t : Turn σ}
    (h : s ∈ (updatesIn a t).flatMap (Turn.selections a)) :
    ReflTransGen Request (t.after a).dispatcher s.finds := by
  obtain ⟨u, hu, hs⟩ := List.mem_flatMap.1 h
  exact (requests_of_mem_replayTurns hu).trans (Program.requests_of_mem_selections hs)

theorem requests_of_mem_driveSelections {t : Turn σ} (h : s ∈ driveSelections a t) :
    ReflTransGen Request t.keyboard.dispatcher s.finds := by
  rcases List.mem_append.1 h with h | h
  · exact Program.requests_of_mem_selections h
  · exact (react_requests a t.keyboard t.callback t.capitalization).trans
      (requests_of_mem_updates h)

theorem moves_of_mem_loadSelections {request : LoadRequest} {settings : Settings}
    (h : s ∈ loadSelections a k request settings) :
    ReflTransGen (Move a.toEnvironment) k.dispatcher s.finds := by
  have hm : Move a.toEnvironment k.dispatcher _ := .prepare _ request.editor settings
  unfold loadSelections at h
  split at h <;> rename_i hp <;> rw [hp] at hm
  · cases h
  · exact .head hm (moves_of_requests _ (requests_of_mem_driveSelections h))

/-- **Where selections are made**: by the machine in the load that the operation makes, or right
after that load, or else where requests have led to without a load. -/
theorem mem_selections_cases {operation : Operation} (h : s ∈ selections a k operation) :
    (∃ request settings, k.loadOf operation = some (request, settings) ∧
      (s ∈ loadSelections a k request settings ∨
        s.finds = (load a k request settings).2.dispatcher)) ∨
      ReflTransGen Request k.dispatcher s.finds := by
  unfold selections at h
  split at h
  · exact .inl ⟨_, _, rfl, .inl h⟩
  · rename_i request
    split_ifs at h with hnone
    · refine .inl ⟨request, k.dispatcher.live, if_pos hnone, ?_⟩
      rcases List.mem_append.1 h with h | h
      · exact .inl h
      · -- the panel is selected after the load
        split at h <;> rename_i hload
        · cases h
        · obtain rfl := List.mem_singleton.1 h
          rw [hload]
          exact .inr rfl
    · obtain rfl := List.mem_singleton.1 h
      exact .inr .refl
    · obtain rfl := List.mem_singleton.1 h
      exact .inr .refl
  · obtain ⟨layer, -, rfl⟩ := List.mem_map.1 h
    exact .inr .refl
  · exact .inr (requests_of_mem_driveSelections h)
  · obtain rfl := List.mem_singleton.1 h
    exact .inr .refl
  · exact .inr (requests_of_mem_driveSelections h)
  · cases h

/-- What a selection of an operation finds, moves have led to. -/
theorem moves_of_mem_selections {operation : Operation} (h : s ∈ selections a k operation) :
    ReflTransGen (Move a.toEnvironment) k.dispatcher s.finds := by
  rcases mem_selections_cases h with ⟨request, settings, -, hs | hs⟩ | hr
  · exact moves_of_mem_loadSelections hs
  · rw [hs]
    exact load_moves a k request settings
  · exact moves_of_requests _ hr

end Keyboard

end SoftKeyboard
