import SoftKeyboard.Input.KeyCode

/-!
# Input events
-/

namespace SoftKeyboard

/-- How an event came about. -/
inductive EventKind where
  /-- A key was pressed. -/
  | input
  /-- A stroke of a gesture ended. -/
  | gesture
  /-- The host made the event up. -/
  | software
  deriving DecidableEq, Repr, Inhabited

/-- An input event. -/
structure Event where
  kind : EventKind
  code : KeyCode
  /-- The text of events that carry one. -/
  text : Option String := none
  x : Int32 := 0
  y : Int32 := 0
  deriving DecidableEq, Repr, Inhabited

namespace Event

/-- The event of a pressed key. -/
def ofKey (code : KeyCode) : Event := { kind := .input, code }

/-- The event of a text that the host made up. -/
def ofText (text : String) : Event :=
  { kind := .software, code := .outputText, text := some text }

end Event

end SoftKeyboard
