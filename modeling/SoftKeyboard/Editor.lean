import SoftKeyboard.Document.Decode

/-!
# Edited text fields

The kind of a text field that a keyboard types into, and the mode of the keyboard that follows from
it.
-/

namespace SoftKeyboard

/-! ### Kinds of text fields -/

/-- The kind of a text field. -/
inductive InputKind where
  | text
  | url
  | email
  | shortMessage
  | password
  | phone
  | number
  | date
  | time
  | dateTime
  deriving DecidableEq, Repr, Inhabited

namespace InputKind

/-- The kinds in their order. -/
def all : List InputKind :=
  [text, url, email, shortMessage, password, phone, number, date, time, dateTime]

/-- The name in documents. -/
def name : InputKind → String
  | text => "text"
  | url => "url"
  | email => "email"
  | shortMessage => "short_message"
  | password => "password"
  | phone => "phone"
  | number => "number"
  | date => "date"
  | time => "time"
  | dateTime => "date_time"

/-- The kinds by their names. -/
def byName : List (String × InputKind) := all.map fun kind => (kind.name, kind)

/-- The document of a kind: its name. -/
def toDocument (kind : InputKind) : Document := .string kind.name

/-- The kind that a document names. -/
def ofDocument? : Document → Option InputKind := Document.toChoice? byName

end InputKind

/-! ### Modes -/

/-- The mode of a keyboard. -/
inductive Mode where
  | text
  | url
  | email
  | im
  | phone
  | number
  | date
  | time
  | dateTime
  deriving DecidableEq, Repr, Inhabited

namespace Mode

/-- The modes in their order. -/
def all : List Mode := [text, url, email, im, phone, number, date, time, dateTime]

/-- The name in documents. -/
def name : Mode → String
  | text => "text"
  | url => "url"
  | email => "email"
  | im => "im"
  | phone => "phone"
  | number => "number"
  | date => "date"
  | time => "time"
  | dateTime => "date_time"

/-- The name in messages. -/
def label : Mode → String
  | text => "Text"
  | url => "Url"
  | email => "Email"
  | im => "Im"
  | phone => "Phone"
  | number => "Number"
  | date => "Date"
  | time => "Time"
  | dateTime => "DateTime"

/-- The modes by their names. -/
def byName : List (String × Mode) := all.map fun mode => (mode.name, mode)

/-- Whether the alphabet layers are number pads in this mode. -/
def isNumeric : Mode → Bool
  | phone | number | date | time | dateTime => true
  | text | url | email | im => false

/-- The document of a mode: its name. -/
def toDocument (mode : Mode) : Document := .string mode.name

/-- The mode that a document names. -/
def ofDocument? : Document → Option Mode := Document.toChoice? byName

end Mode

/-! ### Editors -/

/-- What a keyboard knows of the text field being edited. -/
structure Editor where
  input : InputKind := .text
  deriving DecidableEq, Repr, Inhabited

namespace Editor

/-- The mode of the keyboard for the text field. -/
def mode (editor : Editor) : Mode :=
  match editor.input with
  | .text | .password => .text
  | .url => .url
  | .email => .email
  | .shortMessage => .im
  | .phone => .phone
  | .number => .number
  | .date => .date
  | .time => .time
  | .dateTime => .dateTime

/-- Whether the text field holds a password. -/
def isPassword (editor : Editor) : Bool := editor.input = .password

/-- The fields of an editor. -/
def fields : List (Document.Field Editor) :=
  [Document.requiredField "input_type" InputKind.ofDocument? fun input _ => ⟨input⟩]

/-- The document of an editor. -/
def toDocument (editor : Editor) : Document :=
  .record [("input_type", editor.input.toDocument)]

/-- The editor that a document spells. -/
def ofDocument? : Document → Option Editor := Document.toRecord? fields ⟨.text⟩

end Editor

end SoftKeyboard
