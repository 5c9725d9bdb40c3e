import SoftKeyboard.Document.Decode
import SoftKeyboard.Text.Quoted

/-!
# Input subtypes

An input subtype pairs a locale with the layout that types it.
-/

namespace SoftKeyboard

/-- A locale and the name of a layout for it. -/
structure InputSubtype where
  /-- The locale, such as `en_US`; `zz` stands for no language. -/
  locale : String := "en_US"
  layout : String := "qwerty"
  deriving DecidableEq, Repr, Inhabited

namespace InputSubtype

/-- The locale up to its first separator. -/
def language (s : InputSubtype) : String :=
  String.ofList (s.locale.toList.takeWhile fun c => c ≠ '_' && c ≠ '-')

/-- Whether the subtype carries no language. -/
def hasNoLanguage (s : InputSubtype) : Bool := s.language = "zz"

/-- The locale and the layout with a colon between them. -/
def display (s : InputSubtype) : String := s.locale ++ ":" ++ s.layout

/-- The structure of the subtype as a text. -/
def describe (s : InputSubtype) : String :=
  Text.outline "Subtype"
    [("locale", Text.quoted s.locale), ("keyboard_layout", Text.quoted s.layout)] false

/-- The fields of a subtype. -/
def fields : List (Document.Field InputSubtype) :=
  [Document.requiredField "locale" Document.toText? fun locale s => { s with locale },
    Document.requiredField "keyboard_layout" Document.toText? fun layout s => { s with layout }]

/-- The document of a subtype. -/
def toDocument (s : InputSubtype) : Document :=
  .record [("locale", .string s.locale), ("keyboard_layout", .string s.layout)]

/-- The subtype that a document spells. -/
def ofDocument? : Document → Option InputSubtype := Document.toRecord? fields {}

end InputSubtype

end SoftKeyboard
