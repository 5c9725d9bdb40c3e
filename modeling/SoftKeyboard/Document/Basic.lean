import SoftKeyboard.Document.Token

/-!
# JSON documents

A `Document` is a JSON value with the members of its objects in order and repeated.
`Document.parse?` reads a text, `Document.render` writes one without blanks.  The parser is a
machine that takes one token at a time and keeps the unfinished arrays and objects on a stack, so
that values nest to any depth.
-/

namespace SoftKeyboard

/-- A JSON value.  A string or key is `none` when it has no text, see `Token`. -/
inductive Document where
  | null
  | bool (value : Bool)
  | number (numeral : Numeral)
  | text (value : Option String)
  | array (items : List Document)
  | object (members : List (Option String × Document))
  deriving Repr, Inhabited

namespace Document

/-- A string. -/
def string (value : String) : Document := .text (some value)

/-- A natural number. -/
def nat (n : Nat) : Document := .number (Numeral.ofNat n)

/-- An object with the given members. -/
def record (members : List (String × Document)) : Document :=
  .object (members.map fun (key, value) => (some key, value))

/-! ### Reading -/

/-- An unfinished array or object around the value being read, what it has so far newest first. -/
inductive Frame where
  | array (items : List Document)
  | object (members : List (Option String × Document)) (key : Option String)

/-- What has been read of a text, by what may come next. -/
inductive Reader where
  /-- A value has to come. -/
  | value (frames : List Frame)
  /-- An array was opened: its first item or its end has to come. -/
  | firstItem (frames : List Frame)
  /-- An item was read: a comma or the end of the array has to come. -/
  | afterItem (items : List Document) (frames : List Frame)
  /-- An object was opened: its first key or its end has to come. -/
  | firstKey (frames : List Frame)
  /-- A comma was read: a key has to come. -/
  | key (members : List (Option String × Document)) (frames : List Frame)
  /-- A key was read: a colon has to come. -/
  | colon (members : List (Option String × Document)) (key : Option String) (frames : List Frame)
  /-- A member was read: a comma or the end of the object has to come. -/
  | afterMember (members : List (Option String × Document)) (frames : List Frame)
  /-- The text is complete: nothing may come. -/
  | done (document : Document)

namespace Reader

/-- The reader after a complete value. -/
def complete (d : Document) : List Frame → Reader
  | [] => .done d
  | .array items :: frames => .afterItem (d :: items) frames
  | .object members k :: frames => .afterMember ((k, d) :: members) frames

/-- The reader after the first token of a value. -/
def start? (frames : List Frame) : Token → Option Reader
  | .null => some (complete .null frames)
  | .bool b => some (complete (.bool b) frames)
  | .number n => some (complete (.number n) frames)
  | .text t => some (complete (.text t) frames)
  | .leftBracket => some (.firstItem frames)
  | .leftBrace => some (.firstKey frames)
  | _ => none

/-- The reader after one more token. -/
def step? : Reader → Token → Option Reader
  | .value frames, token => start? frames token
  | .firstItem frames, .rightBracket => some (complete (.array []) frames)
  | .firstItem frames, token => start? (.array [] :: frames) token
  | .afterItem items frames, .comma => some (.value (.array items :: frames))
  | .afterItem items frames, .rightBracket => some (complete (.array items.reverse) frames)
  | .firstKey frames, .rightBrace => some (complete (.object []) frames)
  | .firstKey frames, .text k => some (.colon [] k frames)
  | .key members frames, .text k => some (.colon members k frames)
  | .colon members k frames, .colon => some (.value (.object members k :: frames))
  | .afterMember members frames, .comma => some (.key members frames)
  | .afterMember members frames, .rightBrace =>
    some (complete (.object members.reverse) frames)
  | _, _ => none

/-- The reader after a list of tokens. -/
def run? : Reader → List Token → Option Reader
  | reader, [] => some reader
  | reader, token :: tokens => (reader.step? token).bind fun reader => reader.run? tokens

end Reader

/-- The document that a list of tokens spells. -/
def ofTokens? (tokens : List Token) : Option Document :=
  match (Reader.value []).run? tokens with
  | some (.done document) => some document
  | _ => none

/-- The document that a text spells. -/
def parse? (source : String) : Option Document :=
  (Token.scan? source.toList).bind ofTokens?

/-! ### Writing -/

mutual

/-- The tokens of a document. -/
def tokens : Document → List Token
  | .null => [.null]
  | .bool value => [.bool value]
  | .number numeral => [.number numeral]
  | .text value => [.text value]
  | .array items => .leftBracket :: (itemTokens items ++ [.rightBracket])
  | .object members => .leftBrace :: (memberTokens members ++ [.rightBrace])

/-- The tokens of the items of an array, with commas between them. -/
def itemTokens : List Document → List Token
  | [] => []
  | [item] => item.tokens
  | item :: items => item.tokens ++ .comma :: itemTokens items

/-- The tokens of the members of an object, with commas between them. -/
def memberTokens : List (Option String × Document) → List Token
  | [] => []
  | [(key, value)] => .text key :: .colon :: value.tokens
  | (key, value) :: members =>
    .text key :: .colon :: (value.tokens ++ .comma :: memberTokens members)

end

/-- The text of a document, without blanks. -/
def render (document : Document) : String :=
  String.ofList (document.tokens.flatMap Token.render)

end Document

end SoftKeyboard
