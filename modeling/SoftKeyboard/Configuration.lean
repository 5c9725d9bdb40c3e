import SoftKeyboard.Editor
import SoftKeyboard.Settings.Basic

/-!
# Configurations

A configuration is everything that decides which layout a keyboard shows.  A layout stays valid as
long as its configuration does not change in any field.
-/

namespace SoftKeyboard

/-- The inputs that decide which layout is valid. -/
structure Configuration where
  theme : ThemeId := {}
  width : UInt32 := 1080
  height : UInt32 := 300
  subtype : InputSubtype := {}
  mode : Mode := .text
  voiceKey : Bool := true
  languageSwitchKey : Bool := false
  split : Bool := false
  deriving DecidableEq, Repr, Inhabited

namespace Configuration

/-- The configuration of a keyboard for an editor, under a theme and settings.  There is no voice
key in a password field. -/
def derive (theme : BoundTheme) (editor : Editor) (settings : Settings) : Configuration where
  theme := theme.theme.id
  width := theme.keyboardWidth
  height := theme.keyboardHeight settings.heightScale
  subtype := settings.subtype
  mode := editor.mode
  voiceKey := settings.showVoiceKey && !editor.isPassword
  languageSwitchKey := settings.showsLanguageSwitchKey
  split := settings.isSplit

/-- Whether the next configuration makes a layout of the current one invalid. -/
def needsRebuild (current : Option Configuration) (next : Configuration) : Bool :=
  current ≠ some next

/-- The configuration in messages. -/
def display (c : Configuration) : String :=
  s!"theme={c.theme.display} {c.width.toNat}x{c.height.toNat} subtype={c.subtype.display} " ++
    s!"mode={c.mode.label} voice={Text.truth c.voiceKey} " ++
    s!"lang_switch={Text.truth c.languageSwitchKey} split={Text.truth c.split}"

/-- The structure of the configuration as a text. -/
def describe (c : Configuration) : String :=
  Text.outline "ConfigurationKey"
    [("theme", s!"ThemeId({c.theme.number.toNat})"),
      ("width", toString c.width.toNat),
      ("height", toString c.height.toNat),
      ("subtype", c.subtype.describe),
      ("mode", c.mode.label),
      ("voice_input_key", Text.truth c.voiceKey),
      ("language_switch_key", Text.truth c.languageSwitchKey),
      ("split_layout", Text.truth c.split)] false

end Configuration

end SoftKeyboard
