import SoftKeyboard.Demo

/-!
# The command line

Plays the demonstration.  The first argument names a file of settings.
-/

namespace SoftKeyboard.Demo

/-- The text of a file, if it can be read. -/
def readText (path : String) : IO (Option String) :=
  try return some (← IO.FS.readFile path) catch _ => return none

/-- Where the settings come from, given the arguments. -/
def sourceOf : List String → IO Source
  | path :: _ => return .file path (← readText path)
  | [] => do
    let desktop : Locale.Desktop :=
      ⟨← IO.getEnv "LANGUAGE", ← IO.getEnv "LC_ALL", ← IO.getEnv "LC_MESSAGES",
        ← IO.getEnv "LANG"⟩
    return .desktop desktop

end SoftKeyboard.Demo

def main (args : List String) : IO UInt32 := do
  match SoftKeyboard.Demo.run (← SoftKeyboard.Demo.sourceOf args) with
  | some lines =>
    for line in lines do IO.println line
    return 0
  | none =>
    IO.eprintln "Error: the settings cannot be read"
    return 1
