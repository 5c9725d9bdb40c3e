import SoftKeyboard.Machine.Program

/-!
# The basic machine

A small state machine whose state is the layer it believes to be shown: the shift key toggles and
locks on a double tap, the symbol key goes to and fro between alphabet and symbols, and typed
characters ask for an update of the shift state.
-/

namespace SoftKeyboard

namespace StateMachine

/-- How the basic machine answers a pressed key. -/
def basicPress (code : KeyCode) (position : Layer) : Program (Outcome × Layer) :=
  if code = .shift then pressShift position
  else if code = .switchAlphaSymbol ∧ position.isAlphabet then moveTo .symbols position
  else if code = .switchAlphaSymbol ∨ code = .alphaFromEmoji then moveTo .alphabet position
  else if code = .emoji then moveTo .emoji position
  else stay position

/-- How the basic machine answers a released key. -/
def basicRelease (code : KeyCode) (c : Capitalization) (position : Layer) :
    Program (Outcome × Layer) :=
  if code = .shift then
    match position with
    | .alphabet | .alphabetAutomaticShifted => moveTo .alphabetManualShifted position
    | .alphabetManualShifted => moveTo .alphabet position
    | _ => stay position
  else if !code.isFunctional then requestAndStay c position
  else stay position

/-- How the basic machine answers an update of the shift state. -/
def basicUpdateShift (c : Capitalization) (position : Layer) : Program (Outcome × Layer) :=
  match position with
  | .alphabet =>
    if c.flags.isEmpty then stay position else moveTo .alphabetAutomaticShifted position
  | .alphabetAutomaticShifted | .alphabetManualShifted =>
    if c.flags.isEmpty then moveTo .alphabet position else stay position
  | _ => stay position

/-- The basic machine. -/
def basic : StateMachine Layer where
  react callback c position :=
    match callback with
    | .load => moveTo (alphabetFor c.flags) position
    | .input .reset => moveTo .alphabet position
    | .input (.press code _) => basicPress code position
    | .input (.release code _) => basicRelease code c position
    | .input .finishSliding => stay position
    | .input .updateShift => basicUpdateShift c position
    | .input (.event e) =>
      if e.code.isFunctional then stay position else requestAndStay c position
  save position := ([], position)

end StateMachine

end SoftKeyboard
