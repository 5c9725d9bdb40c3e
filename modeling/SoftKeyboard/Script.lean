import SoftKeyboard.Document.Decode

/-!
# Writing systems
-/

namespace SoftKeyboard

/-- The writing system of a layout. -/
inductive Script where
  | unknown
  | latin
  | cyrillic
  | greek
  | arabic
  | hebrew
  | armenian
  | georgian
  | devanagari
  | thai
  deriving DecidableEq, Repr, Inhabited

namespace Script

/-- The scripts in their order. -/
def all : List Script :=
  [unknown, latin, cyrillic, greek, arabic, hebrew, armenian, georgian, devanagari, thai]

/-- The name in layout descriptors. -/
def name : Script → String
  | unknown => "unknown"
  | latin => "latin"
  | cyrillic => "cyrillic"
  | greek => "greek"
  | arabic => "arabic"
  | hebrew => "hebrew"
  | armenian => "armenian"
  | georgian => "georgian"
  | devanagari => "devanagari"
  | thai => "thai"

/-- The name in reports. -/
def label : Script → String
  | unknown => "Unknown"
  | latin => "Latin"
  | cyrillic => "Cyrillic"
  | greek => "Greek"
  | arabic => "Arabic"
  | hebrew => "Hebrew"
  | armenian => "Armenian"
  | georgian => "Georgian"
  | devanagari => "Devanagari"
  | thai => "Thai"

/-- The scripts by their names. -/
def byName : List (String × Script) := all.map fun script => (script.name, script)

/-- The document of a script: its name. -/
def toDocument (script : Script) : Document := .string script.name

/-- The script that a document names. -/
def ofDocument? : Document → Option Script := Document.toChoice? byName

end Script

end SoftKeyboard
