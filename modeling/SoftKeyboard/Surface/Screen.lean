import SoftKeyboard.Notice
import SoftKeyboard.Surface.Presenter

/-!
# Screens

A screen is an attached view: what its presenter remembers, and the record of what it was told.
-/

namespace SoftKeyboard

/-- What the sinks of a view report of a call. -/
def SinkCall.notices (view : Nat) : SinkCall → List Notice
  | .draw v => [.drewLayer view v.layer]
  | .closing => [.closingView view]
  | _ => []

/-- An attached view. -/
structure Screen where
  presenter : Presenter
  record : Record
  deriving DecidableEq, Repr

namespace Screen

/-- The number of the view. -/
def view (s : Screen) : Nat := s.record.view

/-- A fresh view for a theme. -/
def attach (view : Nat) (theme : String) (hardwareAcceleration listening : Bool) : Screen where
  presenter := {}
  record :=
    ({ view, theme, hardwareAcceleration, listening } : Record).applyAll Presenter.openingCalls

/-- The screen after its presenter made calls. -/
def tell (s : Screen) (presenter : Presenter) (calls : List SinkCall) : Screen :=
  ⟨presenter, s.record.applyAll calls⟩

/-- Shows a variant on the main surface. -/
def showMain (s : Screen) (v : Variant) (presentation : Presentation) (collapse : Bool) :
    Screen × List Notice :=
  let (presenter, calls) := s.presenter.showMain v presentation collapse
  (s.tell presenter calls, calls.flatMap (SinkCall.notices s.view))

/-- Shows the emoji panel. -/
def showEmoji (s : Screen) (label : String) (look : Look) (icons : IconSet) :
    Screen × List Notice :=
  let (presenter, calls) := s.presenter.showEmoji label look icons
  (s.tell presenter calls, calls.flatMap (SinkCall.notices s.view))

/-- Releases what the surfaces hold on to. -/
def releaseResources (s : Screen) : Screen × List Notice :=
  let (presenter, calls) := s.presenter.releaseResources
  (s.tell presenter calls, calls.flatMap (SinkCall.notices s.view))

/-- Tells the main surface that the window is hidden. -/
def hideWindow (s : Screen) : Screen := s.tell s.presenter [.hideWindow]

/-- Closes the view for good.  Gives its record. -/
def close (s : Screen) : Record × List Notice :=
  let calls := s.presenter.closingCalls
  (s.record.applyAll calls, calls.flatMap (SinkCall.notices s.view))

/-- The screen with the timer of a double tap started or cancelled. -/
def setTimer (s : Screen) (running : Bool) : Screen :=
  { s with record := s.record.setTimer running }

/-- The screen whose user opened or closed the panel of more keys. -/
def setMoreKeys (s : Screen) (showing : Bool) : Screen :=
  { s with record := s.record.setMoreKeys showing }

/-- The structure of the view's surfaces as a text. -/
def describeParts (s : Screen) : String :=
  Text.outline "SurfaceParts" [("view", s!"ViewId({s.view})")] true

/-- The structure of the presenter as a text. -/
def describe (s : Screen) : String := s.presenter.describe s.view

end Screen

end SoftKeyboard
