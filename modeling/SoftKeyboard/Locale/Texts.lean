import SoftKeyboard.Locale.Tag

/-!
# Texts of a keyboard

The labels of keys in the languages that a keyboard speaks.  The language follows the locale of the
loaded subtype; where a language has no texts, English has.
-/

namespace SoftKeyboard

/-- A language that the labels are available in. -/
inductive Language where
  | english
  | german
  | french
  | russian
  deriving DecidableEq, Repr, Inhabited

/-- The language of a language subtag, English if the labels are not available in it. -/
def Language.ofSubtag : String → Language
  | "de" => german
  | "fr" => french
  | "ru" => russian
  | _ => english

/-- A label. -/
inductive Label where
  /-- The key back from symbols or emoji to the alphabet. -/
  | toAlphabet
  | toSymbols
  | toShiftedSymbols
  | emojiPanel
  deriving DecidableEq, Repr

/-- The text of a label in a language. -/
def Label.text : Label → Language → String
  | toAlphabet, .russian => "АБВ"
  | toAlphabet, _ => "ABC"
  | toSymbols, _ => "?123"
  | toShiftedSymbols, _ => "~[<"
  | emojiPanel, .french => "Émoji"
  | emojiPanel, .russian => "Эмодзи"
  | emojiPanel, _ => "Emoji"

/-- The labels in one language, with English to fall back on. -/
structure Texts where
  language : Language := .english
  deriving DecidableEq, Repr, Inhabited

namespace Texts

/-- The tags of the languages that give the labels, the preferred first. -/
def languages (t : Texts) : List String :=
  match t.language with
  | .english => ["en"]
  | .german => ["de", "en"]
  | .french => ["fr", "en"]
  | .russian => ["ru", "en"]

/-- The text of a label. -/
def text (t : Texts) (label : Label) : String := label.text t.language

/-- The texts for a locale.  A locale that is no language tag leaves them as they are. -/
def setLocale (t : Texts) (locale : String) : Texts :=
  match Locale.languageOf locale with
  | .ok language => ⟨.ofSubtag language⟩
  | .error _ => t

end Texts

end SoftKeyboard
