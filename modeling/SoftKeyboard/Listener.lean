import SoftKeyboard.Notice

/-!
# Listening

A listener notes down what the user's fingers do on a surface.  Of the notices that it makes, and
of all others, those that matter are shown as lines on a terminal.
-/

namespace SoftKeyboard

/-! ### Key actions -/

/-- A key action on a surface. -/
inductive KeyAction where
  | press (code : KeyCode) (repeats : UInt32) (singlePointer : Bool)
  | release (code : KeyCode) (sliding : Bool)
  | code (code : KeyCode) (x y : Int32) (repeated : Bool)
  | text (text : String)
  deriving DecidableEq, Repr

/-- The notice of a key action. -/
def KeyAction.notice : KeyAction → Notice
  | press key repeats singlePointer => .pressed key repeats singlePointer
  | release key sliding => .released key sliding
  | code key x y repeated => .enteredCode key x y repeated
  | text s => .enteredText s

/-! ### Lines -/

namespace Notice

/-- Whether a notice is shown: of the keyboard's own those that matter, of others only errors. -/
def isShown : Notice → Bool
  | unparsableDesktopLocale _ => true
  | notice => Severity.info.rank ≤ notice.severity.rank

/-- The lines of a notice: its text comes after its severity and source, with the control characters
that steer a terminal escaped. -/
def lines (notice : Notice) : List String :=
  let text := notice.severity.label ++ " " ++ notice.source ++ ": " ++
    Text.printable notice.message
  text.splitOn "\n"

end Notice

end SoftKeyboard
