import SoftKeyboard.Input.Capitalization
import SoftKeyboard.Input.Event
import SoftKeyboard.KeyboardError
import SoftKeyboard.Locale.Tag
import SoftKeyboard.Surface.Record
import SoftKeyboard.Text.Quoted

/-!
# Notices

What a keyboard reports of its work.  Each notice has a severity, a source and a text.
-/

namespace SoftKeyboard

/-! ### Severities -/

/-- How much a notice matters, the least first. -/
inductive Severity where
  | trace
  | debug
  | info
  | warn
  | error
  deriving DecidableEq, Repr

namespace Severity

/-- The name of the severity. -/
def label : Severity → String
  | trace => "TRACE"
  | debug => "DEBUG"
  | info => "INFO"
  | warn => "WARN"
  | error => "ERROR"

/-- The severity's place in the order. -/
def rank : Severity → Nat
  | trace => 0
  | debug => 1
  | info => 2
  | warn => 3
  | error => 4

end Severity

/-! ### Notices -/

/-- Something a keyboard reports. -/
inductive Notice where
  | unknownTheme (id : ThemeId)
  | droppedLayout (c : Configuration)
  | boundTheme (name : String)
  | reusedLayout (c : Configuration)
  | builtLayout (c : Configuration) (script : Script)
  | buildFailed (c : Configuration) (e : BuildError)
  | replacingView (view : Nat)
  | attachedView (view : Nat) (theme : String) (hardwareAcceleration : Bool)
  | detachedView (view : Nat)
  | releasedResources (view : Nat)
  | savedLayer (layer : Layer)
  | noLayout (layer : Layer)
  | noView (layer : Layer)
  | showedEmoji (view : Nat)
  | showedLayer (view : Nat) (layer : Layer)
  | createdView (view : Nat) (theme : String)
  | drewLayer (view : Nat) (layer : Layer)
  | closingView (view : Nat)
  | restoredLayer (layer : Layer)
  | droppedRequests (count replays : Nat)
  | shiftUpdateFailed (e : KeyboardError)
  | themeChanged (id : ThemeId)
  | sessionShutDown (handled : Nat)
  | commandFailed (e : KeyboardError)
  | unparsableLocale (locale : String) (e : Locale.TagError)
  | unparsableDesktopLocale (e : Locale.TagError)
  | savedPosition (layer : Layer)
  | committedText (text : String)
  | pressed (code : KeyCode) (repeats : UInt32) (single : Bool)
  | released (code : KeyCode) (sliding : Bool)
  | enteredCode (code : KeyCode) (x y : Int32) (repeated : Bool)
  | enteredText (text : String)
  | loadedSettings (path : String)
  | bundledLayouts (names : List String)
  | report (step : String) (view : Option Nat) (visible : Option Pane) (layer : Option Layer)
      (shift : ShiftState) (script : Script)
  | handledCommands (count : Nat)
  deriving DecidableEq, Repr

namespace Notice

/-- How much the notice matters. -/
def severity : Notice → Severity
  | unknownTheme _ => .warn
  | droppedLayout _ => .info
  | boundTheme _ => .info
  | reusedLayout _ => .debug
  | builtLayout _ _ => .info
  | buildFailed _ _ => .warn
  | replacingView _ => .info
  | attachedView _ _ _ => .info
  | detachedView _ => .info
  | releasedResources _ => .debug
  | savedLayer _ => .debug
  | noLayout _ => .error
  | noView _ => .warn
  | showedEmoji _ => .debug
  | showedLayer _ _ => .debug
  | createdView _ _ => .debug
  | drewLayer _ _ => .trace
  | closingView _ => .debug
  | restoredLayer _ => .debug
  | droppedRequests _ _ => .error
  | shiftUpdateFailed _ => .warn
  | themeChanged _ => .debug
  | sessionShutDown _ => .debug
  | commandFailed _ => .error
  | unparsableLocale _ _ => .warn
  | unparsableDesktopLocale _ => .error
  | savedPosition _ => .info
  | committedText _ => .info
  | pressed _ _ _ => .debug
  | released _ _ => .debug
  | enteredCode _ _ _ _ => .debug
  | enteredText _ => .debug
  | loadedSettings _ => .info
  | bundledLayouts _ => .info
  | report _ _ _ _ _ _ => .info
  | handledCommands _ => .info

/-- The part of the program that gives the notice. -/
def source : Notice → String
  | unknownTheme _ => "keyswitch::theme"
  | droppedLayout _ | boundTheme _ | reusedLayout _ | builtLayout _ _ | buildFailed _ _
  | replacingView _ | attachedView _ _ _ | detachedView _ | releasedResources _ | savedLayer _
  | noLayout _ | noView _ | showedEmoji _ | showedLayer _ _ => "keyswitch::switcher::dispatch"
  | createdView _ _ | drewLayer _ _ | closingView _ => "keyswitch::surface::headless"
  | restoredLayer _ | droppedRequests _ _ | shiftUpdateFailed _ => "keyswitch::switcher"
  | themeChanged _ | sessionShutDown _ | commandFailed _ => "keyswitch::session"
  | unparsableLocale _ _ => "keyswitch::i18n"
  | unparsableDesktopLocale _ => "i18n_embed::requester"
  | savedPosition _ | committedText _ | pressed _ _ _ | released _ _ | enteredCode _ _ _ _
  | enteredText _ | loadedSettings _ | bundledLayouts _ | report _ _ _ _ _ _
  | handledCommands _ => "keyswitch_demo"

/-- The name of a view in notices. -/
def viewName (view : Nat) : String := s!"view#{view}"

/-- The text of the notice. -/
def message : Notice → String
  | unknownTheme id => s!"Unknown keyboard theme ThemeId({id.number.toNat}), using " ++
      Theme.fallback.name
  | droppedLayout c => s!"Dropped variant set for [{c.display}]"
  | boundTheme name => s!"Bound keyboard theme '{name}'"
  | reusedLayout c => s!"Reusing variant set for [{c.display}]"
  | builtLayout c script => s!"Built variant set for [{c.display}] ({script.label})"
  | buildFailed c e => s!"Keeping previous layout; build failed for [{c.display}]: {e.message}"
  | replacingView view => s!"Detaching {viewName view}"
  | attachedView view theme hardware =>
    s!"Attached {viewName view} (theme '{theme}', hardware acceleration {Text.truth hardware})"
  | detachedView view => s!"Detached {viewName view}"
  | releasedResources view => s!"Released surface resources of {viewName view}"
  | savedLayer layer => s!"Saved keyboard state '{layer.name}'"
  | noLayout layer => s!"Select '{layer.name}' before any layout configuration was loaded"
  | noView layer => s!"Select '{layer.name}' with no surfaces attached"
  | showedEmoji view => s!"{viewName view}: showing emoji panel"
  | showedLayer view layer => s!"{viewName view}: showing '{layer.name}'"
  | createdView view theme => s!"Created headless {viewName view} for theme '{theme}'"
  | drewLayer view layer => s!"{viewName view}: drawing {layer.name}"
  | closingView view => s!"{viewName view} closing"
  | restoredLayer layer => s!"Restored keyboard state '{layer.name}'"
  | droppedRequests count replays =>
    s!"Dropping {count} shift state requests after {replays} replays"
  | shiftUpdateFailed e => s!"Shift state update failed: {e.message}"
  | themeChanged id => s!"Theme changed to {id.display}; surfaces must be recreated"
  | sessionShutDown handled => s!"Keyboard session shutting down after {handled} commands"
  | commandFailed e => s!"Keyboard session command failed: {e.message}"
  | unparsableLocale locale e => s!"Unparsable subtype locale '{locale}': {e.message}"
  | unparsableDesktopLocale e => s!"Unable to parse your locale: {e.describe}"
  | savedPosition layer => s!"State machine saved position '{layer.name}'"
  | committedText text => s!"Committed text {Text.quoted text}"
  | pressed code repeats single =>
    s!"Surface press {code.describe} (repeat {repeats.toNat}, " ++
      s!"single pointer {Text.truth single})"
  | released code sliding =>
    s!"Surface release {code.describe} (sliding {Text.truth sliding})"
  | enteredCode code x y repeated =>
    s!"Surface code {code.describe} at ({x.toInt}, {y.toInt}) repeat {Text.truth repeated}"
  | enteredText text => s!"Surface text {Text.quoted text}"
  | loadedSettings path => s!"Loaded settings from {path}"
  | bundledLayouts names => "Bundled layouts: " ++ ", ".intercalate names
  | report step view visible layer shift script =>
    Text.padded 28 step ++ " view=" ++ Text.optional (view.map toString) ++
      " visible=" ++ Text.optional (visible.map Pane.label) ++
      " variant=" ++ Text.optional (layer.map Layer.label) ++
      " shift=" ++ shift.label ++ " script=" ++ script.label
  | handledCommands count => s!"Demo session handled {count} commands"

end Notice

end SoftKeyboard
