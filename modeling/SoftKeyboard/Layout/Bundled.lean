import SoftKeyboard.Layout.Catalog

/-!
# Bundled layouts

The descriptors that every keyboard comes with.
-/

namespace SoftKeyboard

namespace Catalog

/-- The document of an icon set given by its pairs. -/
def iconDocument (icons : List (String × String)) : Document :=
  .record (icons.map fun (key, icon) => (key, .string icon))

/-- The document of a number below one, given by its digits after the point. -/
def fractionDocument (digits : String) : Document :=
  .number ⟨false, [.zero], digits.toList.filterMap Digit.ofChar?, none⟩

/-- The entry of a layer with a top padding and an icon of its own for the shift key. -/
def shiftEntry (padding : String) (icon : String) : Document :=
  .record
    [("top_padding", fractionDocument padding), ("icons", iconDocument [("shift_key", icon)])]

/-- The entry of a layer with a top padding. -/
def paddingEntry (padding : String) : Document :=
  .record [("top_padding", fractionDocument padding)]

/-- The icons that every bundled layout has. -/
def commonIcons : List (String × String) :=
  [("shift_key", "ic_shift"), ("delete_key", "ic_delete"), ("enter_key", "ic_enter"),
    ("space_key", "ic_space"), ("emoji_action_key", "ic_emoji")]

/-- The French layout. -/
def azerty : Document :=
  .record
    [("name", .string "azerty"),
      ("script", .string "latin"),
      ("supports_split", .bool true),
      ("icons", iconDocument (commonIcons ++ [("language_switch_key", "ic_language")])),
      ("variants", .record
        [("alphabet", paddingEntry "02"),
          ("alphabet_manual_shifted", shiftEntry "02" "ic_shift_shifted"),
          ("alphabet_shift_locked", shiftEntry "02" "ic_shift_locked"),
          ("symbols", paddingEntry "03"),
          ("symbols_shifted", paddingEntry "03")])]

/-- The Russian layout. -/
def jcuken : Document :=
  .record
    [("name", .string "jcuken"),
      ("script", .string "cyrillic"),
      ("icons", iconDocument commonIcons),
      ("variants", .record
        [("alphabet", paddingEntry "015"),
          ("alphabet_shift_locked", shiftEntry "015" "ic_shift_locked"),
          ("symbols", paddingEntry "03")])]

/-- The English layout. -/
def qwerty : Document :=
  .record
    [("name", .string "qwerty"),
      ("script", .string "latin"),
      ("supports_split", .bool true),
      ("icons", iconDocument (commonIcons ++
        [("language_switch_key", "ic_language"), ("voice_key", "ic_mic"),
          ("settings_key", "ic_settings")])),
      ("variants", .record
        [("alphabet", paddingEntry "02"),
          ("alphabet_manual_shifted", shiftEntry "02" "ic_shift_shifted"),
          ("alphabet_automatic_shifted", shiftEntry "02" "ic_shift_shifted"),
          ("alphabet_shift_locked", shiftEntry "02" "ic_shift_locked"),
          ("alphabet_shift_lock_shifted", shiftEntry "02" "ic_shift_locked"),
          ("symbols", paddingEntry "03"),
          ("symbols_shifted", paddingEntry "03")]),
      ("numeric", paddingEntry "05")]

/-- The catalog of the bundled layouts. -/
def bundled : Catalog :=
  ((empty.insert "azerty" azerty.render).insert "jcuken" jcuken.render).insert "qwerty"
    qwerty.render

end Catalog

end SoftKeyboard
