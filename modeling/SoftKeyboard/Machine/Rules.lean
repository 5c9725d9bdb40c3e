import SoftKeyboard.Machine.Program

/-!
# Machines given by rules

A rule machine answers each kind of callback with a fixed list of actions.
-/

namespace SoftKeyboard

/-! ### Actions -/

/-- An action of a rule. -/
inductive Action where
  /-- Shows a layer, and stops with the error if that fails. -/
  | select (layer : Layer)
  /-- Shows a layer and goes on in any case. -/
  | attempt (layer : Layer)
  /-- Stops with an error. -/
  | fail (e : KeyboardError)
  /-- Asks for an update of the shift state; what is not given is the callback's own. -/
  | request (flags : Option CapsFlags) (recapitalization : Option Recapitalization)
  | setTimer (running : Bool)
  /-- Performs the first list while the timer of a double tap is running, the second otherwise. -/
  | ifTimer (running idle : List Action)

namespace Action

mutual

/-- The program of an action. -/
def program (c : Capitalization) : Action → Program Outcome
  | .select layer => .select layer .done
  | .attempt layer => .select layer fun _ => .done (.ok ())
  | .fail e => .done (.error e)
  | .request flags recapitalization =>
    .requestShift ⟨flags.getD c.flags, recapitalization.getD c.recapitalization⟩ (.done (.ok ()))
  | .setTimer running => .setTimer running (.done (.ok ()))
  | .ifTimer running idle =>
    .timerRunning fun answer => if answer then programAll c running else programAll c idle

/-- The program of actions, from the first to the last, up to an error. -/
def programAll (c : Capitalization) : List Action → Program Outcome
  | [] => .done (.ok ())
  | action :: actions =>
    (program c action).bind fun
      | .ok () => programAll c actions
      | .error e => .done (.error e)

end

end Action

/-! ### Rules -/

/-- The actions for each kind of callback. -/
structure Rules where
  load : List Action := []
  reset : List Action := []
  press : List Action := []
  release : List Action := []
  finishSliding : List Action := []
  updateShift : List Action := []
  event : List Action := []

namespace Rules

/-- The actions for a callback. -/
def actions (r : Rules) : Callback → List Action
  | .load => r.load
  | .input .reset => r.reset
  | .input (.press _ _) => r.press
  | .input (.release _ _) => r.release
  | .input .finishSliding => r.finishSliding
  | .input .updateShift => r.updateShift
  | .input (.event _) => r.event

/-- The state machine of the rules, which has no state of its own. -/
def machine (r : Rules) : StateMachine Unit where
  react callback c _ :=
    (Action.programAll c (r.actions callback)).bind fun outcome => .done (outcome, ())
  save _ := ([], ())

end Rules

end SoftKeyboard
