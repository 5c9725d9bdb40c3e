import SoftKeyboard.Locale.Tag

/-!
# The language of a desktop

The preferred language that a desktop's environment asks for.
-/

namespace SoftKeyboard.Locale

/-- The variables of an environment that name languages. -/
structure Desktop where
  /-- A list of locales with colons between them. -/
  languageList : Option String := none
  all : Option String := none
  messages : Option String := none
  other : Option String := none

namespace Desktop

/-- The locales that the environment names, the preferred first. -/
def locales (d : Desktop) : List (List Char) :=
  let listed := (d.languageList.map String.toList).getD []
  let list := if listed.isEmpty then [] else splitBy (· = ':') listed
  let single (value : Option String) : List (List Char) :=
    match value with
    | none | some "" => []
    | some locale => [locale.toList]
  list ++ single d.all ++ single d.messages ++ single d.other

/-- The languages of the locales, each with its encoding and modifier cut off. -/
def languages (d : Desktop) : List (Except TagError String) :=
  d.locales.map fun locale =>
    languageOf (String.ofList (locale.takeWhile fun c => c ≠ '.' && c ≠ '@'))

/-- The language of the first locale that is a language tag. -/
def language? (d : Desktop) : Option String := d.languages.findSome? Except.toOption

/-- Why locales are no language tags, in their order. -/
def errors (d : Desktop) : List TagError :=
  d.languages.filterMap fun
    | .ok _ => none
    | .error e => some e

end Desktop

end SoftKeyboard.Locale
