import SoftKeyboard.Notice

/-!
# State machines

A state machine decides which layer a keyboard shows.  It is told of loads and of the host's input
by callbacks, and answers each with a `Program`: a tree of the few requests that it may make of the
keyboard, in which it goes on according to their answers.  A machine sees and changes a keyboard in
no other way.
-/

namespace SoftKeyboard

/-! ### Callbacks -/

/-- Input that a host passes on to the state machine. -/
inductive Input where
  /-- The machine shall forget where it is and return to the alphabet. -/
  | reset
  | press (code : KeyCode) (singlePointer : Bool)
  | release (code : KeyCode) (sliding : Bool)
  | finishSliding
  | updateShift
  | event (e : Event)
  deriving DecidableEq, Repr

/-- What a state machine is told. -/
inductive Callback where
  /-- A layout was loaded; the machine picks the first layer. -/
  | load
  | input (i : Input)
  deriving DecidableEq, Repr

/-! ### Programs -/

/-- Requests to a keyboard that end in a value. -/
inductive Program (α : Type) where
  | done (value : α)
  /-- Shows a layer. -/
  | select (layer : Layer) (next : Except KeyboardError Unit → Program α)
  /-- Asks for an update of the shift state once the callback has returned. -/
  | requestShift (c : Capitalization) (next : Program α)
  /-- Starts or cancels the timer of a double tap. -/
  | setTimer (running : Bool) (next : Program α)
  /-- Asks whether the timer of a double tap is running. -/
  | timerRunning (next : Bool → Program α)
  /-- Reports something. -/
  | note (notice : Notice) (next : Program α)

namespace Program

variable {α β : Type}

/-- The program that goes on with the value of another one. -/
def bind : Program α → (α → Program β) → Program β
  | done a, f => f a
  | select layer next, f => select layer fun answer => (next answer).bind f
  | requestShift c next, f => requestShift c (next.bind f)
  | setTimer running next, f => setTimer running (next.bind f)
  | timerRunning next, f => timerRunning fun answer => (next answer).bind f
  | note notice next, f => note notice (next.bind f)

instance : Monad Program where
  pure := done
  bind := bind

end Program

/-! ### Machines -/

/-- How a callback ends: well or with an error. -/
abbrev Outcome := Except KeyboardError Unit

/-- A state machine with states in `σ`. -/
structure StateMachine (σ : Type) where
  /-- The answer to a callback, ending in its outcome and the next state. -/
  react : Callback → Capitalization → σ → Program (Outcome × σ)
  /-- What the machine reports when the host is about to tear the view down, and the next state. -/
  save : σ → List Notice × σ

namespace StateMachine

/-- Shows a layer and takes it as the new position if it can be shown. -/
def moveTo (target position : Layer) : Program (Outcome × Layer) :=
  .select target fun
    | .ok () => .done (.ok (), target)
    | .error e => .done (.error e, position)

/-- Stays at a position. -/
def stay (position : Layer) : Program (Outcome × Layer) := .done (.ok (), position)

/-- Asks for an update of the shift state and stays. -/
def requestAndStay (c : Capitalization) (position : Layer) : Program (Outcome × Layer) :=
  .requestShift c (stay position)

/-- The alphabet layer that an editor asks for. -/
def alphabetFor (flags : CapsFlags) : Layer :=
  if flags.isEmpty then .alphabet else .alphabetAutomaticShifted

/-- The shift key is pressed: the second tap of a double tap locks, any other press starts the
timer. -/
def pressShift (position : Layer) : Program (Outcome × Layer) :=
  .timerRunning fun running =>
    if running then .setTimer false (moveTo .alphabetShiftLocked position)
    else .setTimer true (stay position)

end StateMachine

end SoftKeyboard
