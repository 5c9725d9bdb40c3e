import SoftKeyboard.Layout.Error
import SoftKeyboard.Layer

/-!
# Errors of a keyboard
-/

namespace SoftKeyboard

/-- Why a layer cannot be shown or a layout cannot be loaded. -/
inductive KeyboardError where
  /-- A layer was asked for before any layout was loaded. -/
  | noLayout (requested : Layer)
  /-- A layer was asked for while no view is attached. -/
  | noView (requested : Layer)
  /-- No layout could be built; the one before is kept. -/
  | build (cause : BuildError)
  deriving DecidableEq, Repr

namespace KeyboardError

/-- The layer that was asked for, if the error is about one. -/
def requested? : KeyboardError → Option Layer
  | noLayout layer | noView layer => some layer
  | build _ => none

/-- The error of building a layout behind the error, if there is one. -/
def cause? : KeyboardError → Option BuildError
  | build cause => some cause
  | noLayout _ | noView _ => none

/-- Whether the caller broke the contract: layers may be asked for only once a layout is loaded. -/
def isPreconditionViolation : KeyboardError → Bool
  | noLayout _ => true
  | noView _ | build _ => false

/-- The text of the error. -/
def message : KeyboardError → String
  | noLayout layer => s!"Cannot select '{layer.name}': no layout configuration is loaded"
  | noView layer => s!"Cannot select '{layer.name}': no surfaces are attached"
  | build cause => s!"Failed to build layout set: {cause.message}"

end KeyboardError

end SoftKeyboard
