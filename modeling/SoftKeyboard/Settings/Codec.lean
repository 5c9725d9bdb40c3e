import SoftKeyboard.Settings.Basic

/-!
# Settings as documents

`Settings.ofText?` reads settings from a text; fields that are not written have their defaults.
`Settings.update?` reads them over other settings, and `Settings.toDocument` writes all of them.
-/

namespace SoftKeyboard

open Document (requiredField optionalField)

/-! ### Preview animations -/

namespace PreviewAnimation

/-- The fields of an animation. -/
def fields : List (Document.Field PreviewAnimation) :=
  [requiredField "show_up_start_x_scale" Document.toSingle? fun x a => { a with startX := x },
    requiredField "show_up_start_y_scale" Document.toSingle? fun x a => { a with startY := x },
    requiredField "show_up_duration_ms" Document.toWord? fun x a => { a with showMs := x },
    requiredField "dismiss_end_x_scale" Document.toSingle? fun x a => { a with endX := x },
    requiredField "dismiss_end_y_scale" Document.toSingle? fun x a => { a with endY := x },
    requiredField "dismiss_duration_ms" Document.toWord? fun x a => { a with dismissMs := x }]

/-- The document of an animation. -/
def toDocument (a : PreviewAnimation) : Document :=
  .record
    [("show_up_start_x_scale", .single a.startX),
      ("show_up_start_y_scale", .single a.startY),
      ("show_up_duration_ms", .word a.showMs),
      ("dismiss_end_x_scale", .single a.endX),
      ("dismiss_end_y_scale", .single a.endY),
      ("dismiss_duration_ms", .word a.dismissMs)]

/-- The animation that a document spells. -/
def ofDocument? : Document → Option PreviewAnimation := Document.toRecord? fields {}

end PreviewAnimation

/-! ### Settings -/

namespace Settings

/-- The fields of settings. -/
def fields : List (Document.Field Settings) :=
  [optionalField "keyboard_theme" ThemeId.ofDocument? fun x s => { s with theme := x },
    optionalField "subtype" InputSubtype.ofDocument? fun x s => { s with subtype := x },
    optionalField "enabled_subtypes" (Document.toList? InputSubtype.ofDocument?)
      fun x s => { s with enabledSubtypes := x },
    optionalField "system_language" Document.toText? fun x s => { s with systemLanguage := x },
    optionalField "show_voice_input_key" Document.toBool?
      fun x s => { s with showVoiceKey := x },
    optionalField "show_language_switch_key" Document.toBool?
      fun x s => { s with showLanguageSwitchKey := x },
    optionalField "split_keyboard_enabled" Document.toBool?
      fun x s => { s with splitKeyboard := x },
    optionalField "has_hardware_keyboard" Document.toBool?
      fun x s => { s with hardwareKeyboard := x },
    optionalField "keyboard_height_scale" Document.toSingle?
      fun x s => { s with heightScale := x },
    optionalField "key_preview_popup_on" Document.toBool?
      fun x s => { s with previewPopup := x },
    optionalField "key_preview_popup_dismiss_delay_ms" Document.toWord?
      fun x s => { s with previewDismissMs := x },
    optionalField "key_preview_animation"
      (Document.toNullable? PreviewAnimation.ofDocument?)
      fun x s => { s with previewAnimation := x },
    optionalField "shortcut_ime_ready" Document.toBool?
      fun x s => { s with shortcutReady := x },
    optionalField "has_multiple_enabled_imes" Document.toBool?
      fun x s => { s with multipleInputMethods := x }]

/-- The members that are written for settings: every field, in order. -/
def members (s : Settings) : List (String × Document) :=
  [("keyboard_theme", s.theme.toDocument),
    ("subtype", s.subtype.toDocument),
    ("enabled_subtypes", .array (s.enabledSubtypes.map InputSubtype.toDocument)),
    ("system_language", .string s.systemLanguage),
    ("show_voice_input_key", .bool s.showVoiceKey),
    ("show_language_switch_key", .bool s.showLanguageSwitchKey),
    ("split_keyboard_enabled", .bool s.splitKeyboard),
    ("has_hardware_keyboard", .bool s.hardwareKeyboard),
    ("keyboard_height_scale", .single s.heightScale),
    ("key_preview_popup_on", .bool s.previewPopup),
    ("key_preview_popup_dismiss_delay_ms", .word s.previewDismissMs),
    ("key_preview_animation", .nullable PreviewAnimation.toDocument s.previewAnimation),
    ("shortcut_ime_ready", .bool s.shortcutReady),
    ("has_multiple_enabled_imes", .bool s.multipleInputMethods)]

/-- The document of settings. -/
def toDocument (s : Settings) : Document := .record s.members

/-- The settings with the fields that a document writes in place of their own. -/
def update? (s : Settings) : Document → Option Settings := Document.toRecord? fields s

/-- The settings that a document spells, the defaults where it writes no field. -/
def ofDocument? : Document → Option Settings := update? {}

/-- The settings that a text spells. -/
def ofText? (source : String) : Option Settings := (Document.parse? source).bind ofDocument?

/-- The text of settings. -/
def toText (s : Settings) : String := s.toDocument.render

end Settings

end SoftKeyboard
