/-!
# Language tags

A language tag is a language, then at most one script, at most one region and any number of
variants, with dashes between them.  `Locale.languageOf` checks a tag and gives its language in
lower case.
-/

namespace SoftKeyboard.Locale

/-- Why a text is no language tag. -/
inductive TagError where
  | invalidLanguage
  | invalidSubtag
  deriving DecidableEq, Repr

/-- The text of the error. -/
def TagError.message : TagError → String
  | invalidLanguage => "Parser error: The given language subtag is invalid"
  | invalidSubtag => "Parser error: Invalid subtag"

/-- The error's cause as a text. -/
def TagError.describe : TagError → String
  | invalidLanguage => "ParserError(InvalidLanguage)"
  | invalidSubtag => "ParserError(InvalidSubtag)"

/-! ### Subtags -/

/-- Whether a character is an ASCII letter. -/
def isLetter (c : Char) : Bool := ('a' ≤ c && c ≤ 'z') || ('A' ≤ c && c ≤ 'Z')

/-- Whether a character is an ASCII digit. -/
def isDigit (c : Char) : Bool := '0' ≤ c && c ≤ '9'

/-- Two, three or five to eight letters. -/
def isLanguage (s : List Char) : Bool :=
  2 ≤ s.length && s.length ≤ 8 && s.length ≠ 4 && s.all isLetter

/-- Four letters. -/
def isScript (s : List Char) : Bool := s.length = 4 && s.all isLetter

/-- Two letters or three digits. -/
def isRegion (s : List Char) : Bool :=
  (s.length = 2 && s.all isLetter) || (s.length = 3 && s.all isDigit)

/-- Whether a character is an ASCII letter or digit. -/
def isAlphanumeric (c : Char) : Bool := isLetter c || isDigit c

/-- Whether a character is an ASCII character other than the null character. -/
def isAscii (c : Char) : Bool := '\x00' < c && c < '\x80'

/-- Five to eight letters and digits, or four ASCII characters of which the first is a digit or the
other three are letters and digits. -/
def isVariant (s : List Char) : Bool :=
  if s.length = 4 then
    s.all isAscii && (s.head?.any isDigit || s.tail.all isAlphanumeric)
  else 5 ≤ s.length && s.length ≤ 8 && s.all isAlphanumeric

/-- Whether subtags are all variants. -/
def areVariants (subtags : List (List Char)) : Bool := subtags.all isVariant

/-- Whether subtags may follow a script: a region, if any, and variants. -/
def mayFollowScript : List (List Char) → Bool
  | [] => true
  | s :: rest => (isRegion s || isVariant s) && areVariants rest

/-- Whether subtags may follow a language: a script, if any, and what may follow it. -/
def mayFollowLanguage : List (List Char) → Bool
  | [] => true
  | s :: rest => if isScript s then mayFollowScript rest else mayFollowScript (s :: rest)

/-! ### Tags -/

/-- The parts of a list between the elements that satisfy `p`; there is one more than of those. -/
def splitBy {α : Type} (p : α → Bool) : List α → List (List α)
  | [] => [[]]
  | a :: rest =>
    if p a then [] :: splitBy p rest
    else match splitBy p rest with
      | [] => [[a]]
      | part :: parts => (a :: part) :: parts

/-- The language of a tag, in lower case; underscores count as dashes. -/
def languageOf (tag : String) : Except TagError String :=
  match splitBy (fun c => c = '-' || c = '_') tag.toList with
  | [] => .error .invalidLanguage
  | language :: rest =>
    if !isLanguage language then .error .invalidLanguage
    else if !mayFollowLanguage rest then .error .invalidSubtag
    else .ok (String.ofList (language.map Char.toLower))

end SoftKeyboard.Locale
