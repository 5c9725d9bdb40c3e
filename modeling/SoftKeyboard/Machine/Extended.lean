import SoftKeyboard.Machine.Program

/-!
# The extended machine

A state machine like the basic one that also knows the second page of symbols, unlocks a locked
shift key by a single tap, asks for an update of the shift state after every event and slide, and
reports what it saves and commits.
-/

namespace SoftKeyboard

namespace StateMachine

/-- How the extended machine answers a pressed key. -/
def extendedPress (code : KeyCode) (position : Layer) : Program (Outcome × Layer) :=
  if code = .shift then pressShift position
  else if code = .switchAlphaSymbol ∧ position.isAlphabet then moveTo .symbols position
  else if code = .switchAlphaSymbol ∨ code = .alphaFromEmoji then moveTo .alphabet position
  else if code = .symbolShift ∧ position = .symbols then moveTo .symbolsShifted position
  else if code = .symbolShift ∧ position = .symbolsShifted then moveTo .symbols position
  else if code = .emoji then moveTo .emoji position
  else stay position

/-- How the extended machine answers a released key. -/
def extendedRelease (code : KeyCode) (c : Capitalization) (position : Layer) :
    Program (Outcome × Layer) :=
  if code = .shift then
    match position with
    | .alphabet | .alphabetAutomaticShifted => moveTo .alphabetManualShifted position
    | .alphabetManualShifted | .alphabetShiftLocked => moveTo .alphabet position
    | _ => stay position
  else if !code.isFunctional then requestAndStay c position
  else stay position

/-- How the extended machine answers an update of the shift state. -/
def extendedUpdateShift (c : Capitalization) (position : Layer) : Program (Outcome × Layer) :=
  match position with
  | .alphabet | .alphabetAutomaticShifted | .alphabetManualShifted =>
    moveTo (alphabetFor c.flags) position
  | _ => stay position

/-- The extended machine. -/
def extended : StateMachine Layer where
  react callback c position :=
    match callback with
    | .load | .input .reset => moveTo (alphabetFor c.flags) position
    | .input (.press code _) => extendedPress code position
    | .input (.release code _) => extendedRelease code c position
    | .input .finishSliding => requestAndStay c position
    | .input .updateShift => extendedUpdateShift c position
    | .input (.event e) =>
      match e.text with
      | some text => .note (.committedText text) (requestAndStay c position)
      | none => requestAndStay c position
  save position := ([.savedPosition position], position)

end StateMachine

end SoftKeyboard
