import SoftKeyboard.Surface.Record
import SoftKeyboard.Text.Quoted

/-!
# Presenters

A presenter keeps the surfaces of a view in step: exactly one of the main surface and the emoji
panel is visible.  It remembers what it last told each sink, and each of its operations gives the
calls that make a difference.
-/

namespace SoftKeyboard

/-- What a presenter last told the sinks of its view. -/
structure Presenter where
  visible : Pane := .main
  frameVisible : Bool := true
  emojiStarted : Bool := false
  topPadding : Option UInt32 := none
  /-- The variant that the main surface has, whether it is visible or not. -/
  variant : Option Variant := none
  deriving DecidableEq, Repr, Inhabited

namespace Presenter

/-- The calls to a fresh view: the main surface and its frame are shown, the emoji panel is
hidden. -/
def openingCalls : List SinkCall := [.frameVisible true, .mainVisible true, .emojiVisible false]

/-- The calls that stop the emoji panel if it was started. -/
def stopCalls (p : Presenter) : List SinkCall := if p.emojiStarted then [.emojiStop] else []

/-- The call that shows or hides the frame, if it is not so already. -/
def frameCalls (p : Presenter) (visible : Bool) : List SinkCall :=
  if p.frameVisible = visible then [] else [.frameVisible visible]

/-- Whether the main surface has exactly this variant. -/
def draws (p : Presenter) (v : Variant) : Bool := p.variant.any fun current => current.isSame v

/-- Shows a variant on the main surface.  The emoji panel is stopped and hidden; the variant and the
padding are passed on only if they change, the presentation always.  With `collapse` the frame is
hidden. -/
def showMain (p : Presenter) (v : Variant) (presentation : Presentation) (collapse : Bool) :
    Presenter × List SinkCall :=
  ({ visible := .main
     frameVisible := !collapse
     emojiStarted := false
     topPadding := some v.topPadding
     variant := if p.draws v then p.variant else some v },
    p.stopCalls ++
      (if p.visible = .emoji then [.emojiVisible false, .mainVisible true] else []) ++
      (if p.draws v then [] else [.draw v]) ++
      (if p.topPadding = some v.topPadding then [] else [.topPadding v.topPadding]) ++
      [.present presentation] ++
      p.frameCalls (!collapse))

/-- Whether the emoji panel is running and visible. -/
def showsEmoji (p : Presenter) : Bool := p.visible = .emoji && p.emojiStarted

/-- Hides the main surface and its frame and shows the emoji panel, unless it is running and visible
already. -/
def showEmoji (p : Presenter) (label : String) (look : Look) (icons : IconSet) :
    Presenter × List SinkCall :=
  if p.showsEmoji then (p, [])
  else
    ({ p with visible := .emoji, frameVisible := false, emojiStarted := true },
      p.frameCalls false ++
        (if p.visible = .main then [.mainVisible false] else []) ++
        (if p.emojiStarted then [] else [.emojiStart label look icons]) ++
        (if p.visible = .main then [.emojiVisible true] else []))

/-- Releases what the surfaces hold on to. -/
def releaseResources (p : Presenter) : Presenter × List SinkCall :=
  ({ p with emojiStarted := false }, [.cancelEvents, .releaseBuffers] ++ p.stopCalls)

/-- The calls to a view that will not be used again. -/
def closingCalls (p : Presenter) : List SinkCall := p.stopCalls ++ [.closing]

/-- The structure of the presenter of a view as a text. -/
def describe (p : Presenter) (view : Nat) : String :=
  Text.outline "SurfaceBundle"
    [("view", s!"ViewId({view})"),
      ("visible", p.visible.label),
      ("container_visible", Text.truth p.frameVisible),
      ("emoji_started", Text.truth p.emojiStarted),
      ("variant", Text.optional (p.variant.map fun v => v.layer.label))] true

end Presenter

end SoftKeyboard
