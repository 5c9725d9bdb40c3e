import SoftKeyboard.InputSubtype
import SoftKeyboard.Theme

/-!
# Settings

A snapshot of the settings that a keyboard depends on.
-/

namespace SoftKeyboard

/-! ### Preview animations -/

/-- How the preview of a pressed key grows and shrinks, in fractions of its size and in
milliseconds. -/
structure PreviewAnimation where
  startX : Single := .ofDecimal 98 2
  startY : Single := .ofDecimal 98 2
  showMs : UInt32 := 17
  endX : Single := .ofDecimal 98 2
  endY : Single := .ofDecimal 98 2
  dismissMs : UInt32 := 53
  deriving DecidableEq, Repr, Inhabited

namespace PreviewAnimation

/-- Whether two animations have equal durations and numbers that compare equal. -/
def equals (a b : PreviewAnimation) : Bool :=
  a.startX.equals b.startX && a.startY.equals b.startY && a.showMs == b.showMs &&
    a.endX.equals b.endX && a.endY.equals b.endY && a.dismissMs == b.dismissMs

end PreviewAnimation

/-! ### Snapshots -/

/-- A snapshot of the settings. -/
structure Settings where
  theme : ThemeId := {}
  subtype : InputSubtype := {}
  /-- The subtypes that the user enabled. -/
  enabledSubtypes : List InputSubtype := [{}]
  /-- The language of the system, such as `en`. -/
  systemLanguage : String := "en"
  showVoiceKey : Bool := true
  showLanguageSwitchKey : Bool := true
  splitKeyboard : Bool := false
  /-- Whether a hardware keyboard is attached. -/
  hardwareKeyboard : Bool := false
  /-- The factor of the keyboard's height. -/
  heightScale : Single := .one
  previewPopup : Bool := true
  previewDismissMs : UInt32 := 70
  /-- The user's own preview animation. -/
  previewAnimation : Option PreviewAnimation := none
  /-- Whether the shortcut input method is ready. -/
  shortcutReady : Bool := false
  /-- Whether the system has more than one input method enabled. -/
  multipleInputMethods : Bool := false
  deriving DecidableEq, Repr, Inhabited

namespace Settings

/-- Whether the key that switches languages is shown: it is asked for, and there is another input
method or subtype to switch to. -/
def showsLanguageSwitchKey (s : Settings) : Bool :=
  s.showLanguageSwitchKey && (s.multipleInputMethods || 1 < s.enabledSubtypes.length)

/-- Whether the keyboard is split. -/
def isSplit (s : Settings) : Bool := s.splitKeyboard

/-- Whether two snapshots are equal, their numbers compared as numbers. -/
def equals (a b : Settings) : Bool :=
  let animations := match a.previewAnimation, b.previewAnimation with
    | none, none => true
    | some x, some y => x.equals y
    | _, _ => false
  a.heightScale.equals b.heightScale && animations &&
    { a with heightScale := .one, previewAnimation := none } ==
      { b with heightScale := .one, previewAnimation := none }

end Settings

end SoftKeyboard
