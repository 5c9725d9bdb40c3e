import SoftKeyboard.Dispatcher
import SoftKeyboard.Machine.Program

/-!
# The keyboard

A keyboard is a dispatcher with a state machine.  `Keyboard.drive` runs one callback of the machine
and then, at most four times, the updates of the shift state that it asked for;
`Keyboard.perform` carries out whatever a host may do.
-/

namespace SoftKeyboard

/-! ### Programs on a dispatcher -/

/-- Carries out a program. -/
def Program.run {α : Type} : Program α → Dispatcher → α × Dispatcher
  | .done a, d => (a, d)
  | .select layer next, d =>
    let (answer, d) := d.select layer
    (next answer).run d
  | .requestShift c next, d => next.run { d with pending := d.pending ++ [c] }
  | .setTimer running next, d => next.run (d.setTimer running)
  | .timerRunning next, d => (next d.timerRunning).run d
  | .note notice next, d => next.run (d.note [notice])

/-! ### Keyboards -/

/-- What a keyboard is put together from. -/
structure Assembly (σ : Type) extends Environment where
  machine : StateMachine σ

/-- Something the state machine was told. -/
inductive Signal where
  | save
  | callback (callback : Callback) (c : Capitalization)
  deriving DecidableEq, Repr

/-- A keyboard whose state machine has states in `σ`. -/
structure Keyboard (σ : Type) where
  dispatcher : Dispatcher
  position : σ
  /-- What the state machine was told, the oldest first. -/
  signals : List Signal := []

namespace Keyboard

variable {σ : Type}

/-- The keyboard at the start. -/
def start (live : Settings) (position : σ) : Keyboard σ := ⟨{ live }, position, []⟩

/-- The keyboard with a changed dispatcher. -/
def withDispatcher (k : Keyboard σ) (d : Dispatcher) : Keyboard σ := { k with dispatcher := d }

/-! ### Driving the state machine -/

/-- How many updates of the shift state are run after one callback. -/
def maxReplays : Nat := 4

/-- Runs a callback of the state machine. -/
def react (a : Assembly σ) (k : Keyboard σ) (callback : Callback) (c : Capitalization) :
    Outcome × Keyboard σ :=
  let ((outcome, position), d) := (a.machine.react callback c k.position).run k.dispatcher
  (outcome, ⟨d, position, k.signals ++ [.callback callback c]⟩)

/-- Runs the pending updates of the shift state, and those that these ask for, as long as the budget
lasts; what is left then is dropped.  An update that fails drops all that is pending. -/
def replay (a : Assembly σ) : Nat → Keyboard σ → Outcome × Keyboard σ
  | budget, k =>
    match k.dispatcher.pending, budget with
    | [], _ => (.ok (), k)
    | _ :: rest, 0 =>
      (.ok (), k.withDispatcher
        (Dispatcher.note { k.dispatcher with pending := [] }
          [.droppedRequests (rest.length + 1) maxReplays]))
    | c :: rest, budget + 1 =>
      match react a (k.withDispatcher { k.dispatcher with pending := rest })
          (.input .updateShift) c with
      | (.ok (), k) => replay a budget k
      | (.error e, k) => (.error e, k.withDispatcher { k.dispatcher with pending := [] })

/-- Runs a callback and the updates of the shift state it asked for.  The callback's error counts
before theirs. -/
def drive (a : Assembly σ) (k : Keyboard σ) (callback : Callback) (c : Capitalization) :
    Outcome × Keyboard σ :=
  let (outcome, k) := react a k callback c
  let (replayed, k) := replay a maxReplays k
  (outcome.bind fun () => replayed, k)

/-! ### Loading and switching -/

/-- The editor that a layout is loaded for, and what it says about capitals. -/
structure LoadRequest where
  editor : Editor := {}
  capitalization : Capitalization := {}
  deriving DecidableEq, Repr, Inhabited

/-- Loads the layout for an editor under settings.  The state machine is told when there is one. -/
def load (a : Assembly σ) (k : Keyboard σ) (request : LoadRequest) (settings : Settings) :
    Outcome × Keyboard σ :=
  let (c, d) := k.dispatcher.configurationFor a.toEnvironment request.editor settings
  match d.install a.toEnvironment c with
  | (.error e, d) => (.error (.build e), k.withDispatcher d)
  | (.ok (), d) => drive a (k.withDispatcher d) .load request.capitalization

/-- Shows a layer without asking the state machine. -/
def select (k : Keyboard σ) (layer : Layer) : Outcome × Keyboard σ :=
  let (outcome, d) := k.dispatcher.select layer
  (outcome, k.withDispatcher d)

/-- Shows a layer and gives the surface that is visible then. -/
def selectPane (k : Keyboard σ) (layer : Layer) : Except KeyboardError Pane × Keyboard σ :=
  match k.select layer with
  | (.error e, k) => (.error e, k)
  | (.ok (), k) => (.ok (k.dispatcher.visible?.getD .main), k)

/-- Shows the emoji panel, or the alphabet if the panel is visible.  Where no layout is loaded, one
is loaded first under the live settings. -/
def toggleEmoji (a : Assembly σ) (k : Keyboard σ) (request : LoadRequest) :
    Except KeyboardError Pane × Keyboard σ :=
  if k.dispatcher.layout.isNone then
    match load a k request k.dispatcher.live with
    | (.error e, k) => (.error e, k)
    | (.ok (), k) => k.selectPane .emoji
  else if k.dispatcher.showsEmoji then k.selectPane .alphabet
  else k.selectPane .emoji

/-! ### Saving and restoring -/

/-- Keeps the layer on the screen for later, and tells the state machine if there is one. -/
def save (a : Assembly σ) (k : Keyboard σ) : Keyboard σ :=
  match k.dispatcher.save with
  | (false, d) => k.withDispatcher d
  | (true, d) =>
    let (notices, position) := a.machine.save k.position
    ⟨d.note notices, position, k.signals ++ [.save]⟩

/-- Shows the layer that was kept.  Gives the layer, and keeps it if it cannot be shown. -/
def restore (k : Keyboard σ) : Except KeyboardError (Option Layer) × Keyboard σ :=
  match k.dispatcher.saved with
  | none => (.ok none, k)
  | some layer =>
    match k.select layer with
    | (.error e, k) => (.error e, k)
    | (.ok (), k) =>
      (.ok (some layer),
        k.withDispatcher (Dispatcher.note { k.dispatcher with saved := none }
          [.restoredLayer layer]))

/-- Updates the shift state; an error is reported only. -/
def requestShift (a : Assembly σ) (k : Keyboard σ) (c : Capitalization) : Keyboard σ :=
  match drive a k (.input .updateShift) c with
  | (.ok (), k) => k
  | (.error e, k) => k.withDispatcher (k.dispatcher.note [.shiftUpdateFailed e])

/-! ### Snapshots and description -/

/-- What can be seen of a keyboard. -/
structure Snapshot where
  view : Option Nat
  visible : Option Pane
  layer : Option Layer
  topPadding : Option UInt32
  script : Script
  shift : ShiftState
  configuration : Option Configuration
  deriving DecidableEq, Repr

/-- What can be seen of the keyboard now. -/
def snapshot (k : Keyboard σ) : Snapshot where
  view := k.dispatcher.screen.map Screen.view
  visible := k.dispatcher.visible?
  layer := k.dispatcher.currentLayer?
  topPadding := k.dispatcher.currentVariant?.map fun v => v.topPadding
  script := k.dispatcher.script
  shift := k.dispatcher.shiftState
  configuration := k.dispatcher.configuration?

/-- The structure of the keyboard as a text. -/
def describe (k : Keyboard σ) : String :=
  Text.outline "KeyboardSwitcher" [("core", k.dispatcher.describe)] true

end Keyboard

end SoftKeyboard
