import SoftKeyboard.Configuration

/-!
# Errors of building layouts
-/

namespace SoftKeyboard

/-- Why a file or directory cannot be read. -/
inductive ReadError where
  | notFound
  | notDirectory
  | isDirectory
  | notUnicode
  deriving DecidableEq, Repr

namespace ReadError

/-- The text of the error. -/
def message : ReadError → String
  | notFound => "No such file or directory (os error 2)"
  | notDirectory => "Not a directory (os error 20)"
  | isDirectory => "Is a directory (os error 21)"
  | notUnicode => "stream did not contain valid UTF-8"

end ReadError

/-- Why no layout can be built. -/
inductive BuildError where
  /-- No descriptor has the name of the configuration's layout. -/
  | missingDescriptor (configuration : Configuration)
  /-- The descriptor does not spell a layout. -/
  | malformed (configuration : Configuration)
  /-- The descriptor has an entry for a layer that does not exist. -/
  | unknownLayer (configuration : Configuration) (name : String)
  /-- The descriptor has no entry for the alphabet layer. -/
  | missingAlphabet (configuration : Configuration)
  /-- A descriptor cannot be read. -/
  | unreadable (path : String) (cause : ReadError)
  deriving DecidableEq, Repr

namespace BuildError

/-- The configuration that no layout could be built for, if the error is about one. -/
def configuration? : BuildError → Option Configuration
  | missingDescriptor c | malformed c | unknownLayer c _ | missingAlphabet c => some c
  | unreadable _ _ => none

/-- Whether the error has another error as its source. -/
def hasSource : BuildError → Bool
  | malformed _ | unreadable _ _ => true
  | missingDescriptor _ | unknownLayer _ _ | missingAlphabet _ => false

/-- The text of the error.  Where the descriptor's text is to blame, the fault found in it is
written as `<json>`. -/
def message : BuildError → String
  | missingDescriptor c => s!"no layout descriptor '{c.subtype.layout}' for [{c.display}]"
  | malformed c => s!"malformed layout descriptor '{c.subtype.layout}' for [{c.display}]: <json>"
  | unknownLayer c name =>
    s!"layout descriptor '{c.subtype.layout}' names unknown variant '{name}'"
  | missingAlphabet c => s!"layout descriptor '{c.subtype.layout}' has no alphabet variant"
  | unreadable path cause => s!"failed to read layout descriptor '{path}': {cause.message}"

end BuildError

end SoftKeyboard
