import SoftKeyboard.Layout.Basic

/-!
# Presentation of a variant

The parameters that a variant is shown with.  `Presentation.derive` reads them off the settings at
the moment of showing; nothing of them is kept from one time to the next.
-/

namespace SoftKeyboard

/-! ### The label of the space bar -/

/-- What the label of the space bar says of the language. -/
inductive SpacebarLabel where
  | none
  | languageOnly
  | fullLocale
  deriving DecidableEq, Repr, Inhabited

/-- The label for a subtype: the full locale if it has no language; none if it is alone and in the
system's language; the full locale if several enabled subtypes share its language and layout; the
language otherwise. -/
def SpacebarLabel.forSubtype (subtype : InputSubtype) (settings : Settings) : SpacebarLabel :=
  if subtype.hasNoLanguage then .fullLocale
  else if settings.enabledSubtypes.length < 2 && settings.systemLanguage = subtype.language then
    .none
  else
    let alike := settings.enabledSubtypes.filter fun other =>
      other.language = subtype.language && other.layout = subtype.layout
    if 1 < alike.length then .fullLocale else .languageOnly

/-! ### Presentations -/

/-- The parameters that a variant is shown with. -/
structure Presentation where
  previewPopup : Bool
  previewDismissMs : UInt32
  /-- Whether the user chose the animation. -/
  customAnimation : Bool
  animation : PreviewAnimation
  shortcutReady : Bool
  /-- Whether the variant shown before had another subtype. -/
  subtypeChanged : Bool
  spacebar : SpacebarLabel
  multipleInputMethods : Bool
  deriving DecidableEq, Repr, Inhabited

/-- The parameters of showing a variant after another one. -/
def Presentation.derive (settings : Settings) (v : Variant) (previous : Option Variant) :
    Presentation where
  previewPopup := settings.previewPopup
  previewDismissMs := settings.previewDismissMs
  customAnimation := settings.previewAnimation.isSome
  animation := settings.previewAnimation.getD {}
  shortcutReady := settings.shortcutReady
  subtypeChanged := previous.all fun old => old.subtype ≠ v.subtype
  spacebar := .forSubtype v.subtype settings
  multipleInputMethods := settings.multipleInputMethods || 1 < settings.enabledSubtypes.length

end SoftKeyboard
