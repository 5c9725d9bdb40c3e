import SoftKeyboard.Layout.Bundled
import SoftKeyboard.Listener
import SoftKeyboard.Locale.Desktop
import SoftKeyboard.Machine.Extended
import SoftKeyboard.Session
import SoftKeyboard.Settings.Codec

/-!
# A demonstration

`Demo.run` plays a session with the extended machine and the bundled layouts and gives the notices
of it.
-/

namespace SoftKeyboard.Demo

/-! ### The script -/

/-- A step of the script. -/
inductive Step where
  | send (message : Message)
  /-- Changes the live settings. -/
  | change (change : Settings → Settings)
  /-- Reports what can be seen of the keyboard. -/
  | report (name : String)

/-- A pressed key. -/
def press (code : KeyCode) : Step := .send (.command (.input (.press code true) {}))

/-- A released key. -/
def release (code : KeyCode) : Step := .send (.command (.input (.release code false) {}))

/-- A text field whose sentences start with a capital. -/
def textField : Keyboard.LoadRequest := ⟨⟨.text⟩, ⟨.sentences, .none⟩⟩

/-- A field of numbers. -/
def numberField : Keyboard.LoadRequest := ⟨⟨.number⟩, {}⟩

/-- The steps of the demonstration under settings. -/
def script (settings : Settings) : List Step :=
  [.send (.command (.createView true)),
    .send (.command (.load textField settings)),
    .report "loaded",
    release (.ofChar 'H'),
    .report "typed 'H'",
    press .shift,
    release .shift,
    press .shift,
    .report "double-tapped shift",
    press .switchAlphaSymbol,
    press .symbolShift,
    .report "shifted symbols",
    .send (.command (.toggleEmoji textField)),
    .report "emoji panel",
    .send (.command (.toggleEmoji textField)),
    .report "emoji panel toggled off",
    .change fun s => { s with hardwareKeyboard := true },
    press .switchAlphaSymbol,
    .report "hardware keyboard",
    .change fun s => { s with hardwareKeyboard := false },
    .send (.command (.load numberField settings)),
    .report "number field",
    .send (.command .save),
    .send (.command .destroyView),
    .send (.command (.createView true)),
    .send (.command .restore),
    .report "restored after rebuild",
    .change fun s => { s with theme := Theme.lxxDark.id },
    .send (.command (.updateTheme Theme.lxxDark.id)),
    .send (.command (.createView true)),
    .send (.command (.load textField settings)),
    .report "dark theme",
    .send (.command .releaseResources),
    .send .shutdown]

/-! ### Playing it -/

/-- The keyboard of the demonstration. -/
def assembly : Assembly Layer where
  toEnvironment := .ofCatalog .bundled {} true
  machine := .extended

/-- The session after a step. -/
def play (s : Session Layer) : Step → Session Layer
  | .send message => (s.step assembly message).2
  | .change change =>
    let live := change s.keyboard.dispatcher.live
    { s with keyboard := (s.keyboard.perform assembly (.publish live)).2 }
  | .report name =>
    match s.step assembly .inspect with
    | (.snapshot v, s) =>
      let d := s.keyboard.dispatcher.note
        [.report name v.view v.visible v.layer v.shift v.script]
      { s with keyboard := s.keyboard.withDispatcher d }
    | (_, s) => s

/-- The notices of the demonstration under settings. -/
def notices (settings : Settings) : List Notice :=
  let s : Session Layer := ⟨.start settings .alphabet, true, 0⟩
  let s := (script settings).foldl play s
  .bundledLayouts Catalog.bundled.names :: s.keyboard.dispatcher.notices ++
    [.handledCommands s.handled]

/-! ### Running it -/

/-- Where the settings come from. -/
inductive Source where
  /-- The defaults, with the language of the desktop. -/
  | desktop (d : Locale.Desktop)
  /-- A file with its text, if it can be read. -/
  | file (path : String) (text : Option String)

/-- The settings from a source and the notices of reading them. -/
def Source.settings? : Source → Option (Settings × List Notice)
  | desktop d =>
    some ({ systemLanguage := d.language?.getD "en" },
      d.errors.map Notice.unparsableDesktopLocale)
  | file path text => do
    let settings ← Settings.ofText? (← text)
    some (settings, [.loadedSettings path])

/-- The lines that the demonstration shows, or nothing if there are no settings. -/
def run (source : Source) : Option (List String) :=
  source.settings?.map fun (settings, read) =>
    ((read ++ notices settings).filter Notice.isShown).flatMap Notice.lines

end SoftKeyboard.Demo
