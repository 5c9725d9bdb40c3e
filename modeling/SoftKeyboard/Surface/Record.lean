import SoftKeyboard.Surface.Presentation

/-!
# Records of views

A view has three sinks: the main surface, the frame around it and the emoji panel.  A `Record` is
the state that their sinks were put into, with the calls that they were given, in order.
-/

namespace SoftKeyboard

/-- A member of the pair of surfaces of which one is visible. -/
inductive Pane where
  | main
  | emoji
  deriving DecidableEq, Repr, Inhabited

/-- The name in reports. -/
def Pane.label : Pane → String
  | main => "Main"
  | emoji => "Emoji"

/-! ### Calls -/

/-- A call to a sink of a view. -/
inductive SinkCall where
  | frameVisible (visible : Bool)
  | topPadding (pixels : UInt32)
  | mainVisible (visible : Bool)
  | draw (v : Variant)
  | present (p : Presentation)
  | emojiVisible (visible : Bool)
  /-- Starts the emoji panel with the label of its key back, a look and icons. -/
  | emojiStart (label : String) (look : Look) (icons : IconSet)
  | emojiStop
  | hideWindow
  /-- Tells the main surface that it will not be used again. -/
  | closing
  | cancelEvents
  | releaseBuffers
  deriving DecidableEq, Repr

namespace SinkCall

/-- Whether the call shows or hides a member of the pair. -/
def changesVisibility : SinkCall → Bool
  | mainVisible _ | emojiVisible _ => true
  | _ => false

end SinkCall

/-! ### Records -/

/-- What a view was told. -/
structure Record where
  view : Nat
  /-- The name of the theme the view was made for. -/
  theme : String
  frameVisible : Bool := false
  topPadding : UInt32 := 0
  mainVisible : Bool := false
  variant : Option Variant := none
  presentation : Option Presentation := none
  /-- How often a presentation was applied. -/
  presented : Nat := 0
  emojiVisible : Bool := false
  emojiRunning : Bool := false
  emojiLabel : Option String := none
  emojiLook : Option Look := none
  emojiIcons : Option IconSet := none
  hardwareAcceleration : Bool := false
  /-- Whether key actions on the main surface and on the emoji panel are listened to. -/
  listening : Bool := false
  showingMoreKeys : Bool := false
  closed : Bool := false
  /-- Whether the timer of a double tap on the shift key is running. -/
  timerRunning : Bool := false
  /-- The calls, the oldest first. -/
  calls : List SinkCall := []
  deriving DecidableEq, Repr

namespace Record

/-- The state that a call puts the view into, without noting the call. -/
def obey (r : Record) : SinkCall → Record
  | .frameVisible visible => { r with frameVisible := visible }
  | .topPadding pixels => { r with topPadding := pixels }
  | .mainVisible visible => { r with mainVisible := visible }
  | .draw v => { r with variant := some v }
  | .present p => { r with presentation := some p, presented := r.presented + 1 }
  | .emojiVisible visible => { r with emojiVisible := visible }
  | .emojiStart label look icons =>
    { r with
      emojiRunning := true, emojiLabel := some label, emojiLook := some look,
      emojiIcons := some icons }
  | .emojiStop => { r with emojiRunning := false }
  | .hideWindow => { r with showingMoreKeys := false }
  | .closing => { r with timerRunning := false, showingMoreKeys := false, closed := true }
  | .cancelEvents => { r with timerRunning := false }
  | .releaseBuffers => r

/-- The record after a call. -/
def apply (r : Record) (c : SinkCall) : Record :=
  let r := r.obey c
  { r with calls := r.calls ++ [c] }

/-- The record after calls, from the first to the last. -/
def applyAll (r : Record) (calls : List SinkCall) : Record := calls.foldl apply r

/-- How many calls showed or hid a member of the pair. -/
def visibilityChanges (r : Record) : Nat := r.calls.countP SinkCall.changesVisibility

/-- The record with the timer of a double tap started or cancelled. -/
def setTimer (r : Record) (running : Bool) : Record := { r with timerRunning := running }

/-- The record of a view whose user opened or closed the panel of more keys. -/
def setMoreKeys (r : Record) (showing : Bool) : Record := { r with showingMoreKeys := showing }

end Record

end SoftKeyboard
