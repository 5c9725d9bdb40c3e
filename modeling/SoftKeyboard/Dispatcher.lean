import SoftKeyboard.Layout.Catalog
import SoftKeyboard.Locale.Texts
import SoftKeyboard.Surface.Screen

/-!
# The dispatcher

The dispatcher owns the bound theme, the layout, the attached view and the texts of a keyboard, and
shows the layers that it is asked for.  `Dispatcher.install` makes the layout match a configuration
and changes nothing when no layout can be built; `Dispatcher.select` shows a layer.
-/

namespace SoftKeyboard

/-! ### Surroundings and state -/

/-- What a keyboard is given from outside. -/
structure Environment where
  /-- Builds a layout for a configuration, given how many layouts were asked for before. -/
  build : Nat → Configuration → Except BuildError Layout
  display : Display := {}
  /-- Whether key actions on views are listened to. -/
  listening : Bool := false

/-- The environment that builds layouts from a catalog; each of them has a stamp of its own. -/
def Environment.ofCatalog (catalog : Catalog) (display : Display) (listening : Bool) :
    Environment :=
  ⟨catalog.build, display, listening⟩

/-- The state of a keyboard apart from its state machine. -/
structure Dispatcher where
  /-- The live settings, which are read whenever a layer is shown. -/
  live : Settings
  texts : Texts := {}
  theme : Option BoundTheme := none
  layout : Option Layout := none
  screen : Option Screen := none
  /-- The records of views that are no longer attached, the oldest first. -/
  retired : List Record := []
  hardwareAcceleration : Bool := false
  /-- The layer to show again once the view is back. -/
  saved : Option Layer := none
  /-- The updates of the shift state that the state machine asked for, the oldest first. -/
  pending : List Capitalization := []
  /-- How many layouts were asked for. -/
  builds : Nat := 0
  notices : List Notice := []
  deriving DecidableEq, Repr

namespace Dispatcher

/-- The dispatcher with notices given. -/
def note (d : Dispatcher) (notices : List Notice) : Dispatcher :=
  { d with notices := d.notices ++ notices }

/-! ### Queries -/

/-- The records of all views, the oldest first. -/
def views (d : Dispatcher) : List Record :=
  d.retired ++ (d.screen.map Screen.record).toList

/-- The configuration of the layout. -/
def configuration? (d : Dispatcher) : Option Configuration := d.layout.map Layout.configuration

/-- The visible member of the pair of surfaces. -/
def visible? (d : Dispatcher) : Option Pane := d.screen.map fun s => s.presenter.visible

/-- Whether the emoji panel is visible. -/
def showsEmoji (d : Dispatcher) : Bool := d.visible? = some .emoji

/-- The variant on the main surface, if it belongs to the layout. -/
def currentVariant? (d : Dispatcher) : Option Variant := do
  let layout ← d.layout
  let screen ← d.screen
  screen.presenter.variant.filter layout.contains

/-- The layer on the screen: emoji while the panel is visible. -/
def currentLayer? (d : Dispatcher) : Option Layer :=
  if d.showsEmoji then some .emoji else d.currentVariant?.map fun v => v.layer

/-- The script of the layout. -/
def script (d : Dispatcher) : Script := (d.layout.map Layout.script).getD .unknown

/-- The state of the shift key that the layer on the screen stands for. -/
def shiftState (d : Dispatcher) : ShiftState := .ofLayer d.currentLayer?

/-- Whether the panel of more keys is open on a visible main surface. -/
def showsMoreKeys (d : Dispatcher) : Bool :=
  d.screen.any fun s => s.presenter.visible = .main && s.record.showingMoreKeys

/-- Whether the timer of a double tap is running. -/
def timerRunning (d : Dispatcher) : Bool := d.screen.any fun s => s.record.timerRunning

/-! ### Themes -/

/-- What is reported of looking for a theme. -/
def themeNotices (id : ThemeId) : List Notice :=
  if (Theme.find? id).isNone then [.unknownTheme id] else []

/-- Binds a theme unless it is bound already; the layout is dropped with the theme before.  Gives
whether the theme changed. -/
def updateTheme (env : Environment) (d : Dispatcher) (id : ThemeId) : Bool × Dispatcher :=
  let theme := Theme.resolve id
  let d := d.note (themeNotices id)
  if d.theme.any fun bound => bound.theme.id = theme.id then (false, d)
  else
    let dropped := d.configuration?.toList.map Notice.droppedLayout
    (true,
      note { d with theme := some ⟨theme, env.display⟩, layout := none }
        (dropped ++ [.boundTheme theme.name]))

/-- The bound theme; the fallback is bound if none is yet. -/
def bindTheme (env : Environment) (d : Dispatcher) (fallback : ThemeId) :
    BoundTheme × Dispatcher :=
  match d.theme with
  | some bound => (bound, d)
  | none =>
    let bound : BoundTheme := ⟨Theme.resolve fallback, env.display⟩
    (bound, note { d with theme := some bound } (themeNotices fallback))

/-! ### Layouts -/

/-- The configuration for an editor under settings. -/
def configurationFor (env : Environment) (d : Dispatcher) (editor : Editor)
    (settings : Settings) : Configuration × Dispatcher :=
  let (bound, d) := d.bindTheme env settings.theme
  (.derive bound editor settings, d)

/-- Switches the texts to a locale. -/
def setLocale (d : Dispatcher) (locale : String) : Dispatcher :=
  note { d with texts := d.texts.setLocale locale }
    (match Locale.languageOf locale with
      | .ok _ => []
      | .error e => [.unparsableLocale locale e])

/-- Makes the layout match a configuration, building one if the configuration changed. -/
def install (env : Environment) (d : Dispatcher) (c : Configuration) :
    Except BuildError Unit × Dispatcher :=
  if Configuration.needsRebuild d.configuration? c then
    let asked := { d with builds := d.builds + 1 }
    match env.build d.builds c with
    | .error e => (.error e, asked.note [.buildFailed c e])
    | .ok layout =>
      (.ok (),
        (note { asked with layout := some layout } [.builtLayout c layout.script]).setLocale
          c.subtype.locale)
  else (.ok (), (d.note [.reusedLayout c]).setLocale c.subtype.locale)

/-! ### Views -/

/-- The dispatcher without the attached view, whose record is kept. -/
def retire (d : Dispatcher) (record : Record) : Dispatcher :=
  { d with screen := none, retired := d.retired ++ [record] }

/-- Attaches a new view in place of the one before.  Gives its number. -/
def createView (env : Environment) (d : Dispatcher) (hardwareAcceleration : Bool) :
    Nat × Dispatcher :=
  let d := match d.screen with
    | none => d
    | some s =>
      let (record, notices) := s.close
      (d.retire record).note (.replacingView s.view :: notices)
  let (bound, d) := d.bindTheme env d.live.theme
  let view := d.retired.length + 1
  (view,
    note
      { d with
        hardwareAcceleration
        screen := some (.attach view bound.theme.name hardwareAcceleration env.listening) }
      [.createdView view bound.theme.name,
        .attachedView view bound.theme.name hardwareAcceleration])

/-- Detaches the view.  Gives its number. -/
def destroyView (d : Dispatcher) : Option Nat × Dispatcher :=
  match d.screen with
  | none => (none, d)
  | some s =>
    let (record, notices) := s.close
    (some s.view, (d.retire record).note (notices ++ [.detachedView s.view]))

/-- Releases what the attached view holds on to. -/
def releaseResources (d : Dispatcher) : Dispatcher :=
  match d.screen with
  | none => d
  | some s =>
    let (screen, notices) := s.releaseResources
    note { d with screen := some screen } (notices ++ [.releasedResources s.view])

/-- Tells the attached view that the window is hidden. -/
def hideWindow (d : Dispatcher) : Dispatcher := { d with screen := d.screen.map Screen.hideWindow }

/-- Starts or cancels the timer of a double tap on the attached view. -/
def setTimer (d : Dispatcher) (running : Bool) : Dispatcher :=
  { d with screen := d.screen.map fun s => s.setTimer running }

/-- Opens or closes the panel of more keys on the last view.  Gives the view's number. -/
def setMoreKeys (d : Dispatcher) (showing : Bool) : Option Nat × Dispatcher :=
  match d.screen, d.retired.getLast? with
  | some s, _ => (some s.view, { d with screen := some (s.setMoreKeys showing) })
  | none, some record =>
    (some record.view,
      { d with retired := d.retired.dropLast ++ [record.setMoreKeys showing] })
  | none, none => (none, d)

/-! ### Showing layers -/

/-- Shows a layer of a layout on the attached view. -/
def selectOn (d : Dispatcher) (layout : Layout) (s : Screen) (layer : Layer) : Dispatcher :=
  if layer = .emoji then
    let id := layout.configuration.theme
    let (screen, notices) :=
      s.showEmoji (d.texts.text .toAlphabet) (Theme.resolve id).look (layout.get .alphabet).icons
    let showed := if s.presenter.showsEmoji then [] else [.showedEmoji s.view]
    note { d with screen := some screen } (themeNotices id ++ notices ++ showed)
  else
    let v := layout.get layer
    let presentation := Presentation.derive d.live v s.presenter.variant
    let (screen, notices) := s.showMain v presentation d.live.hardwareKeyboard
    note { d with screen := some screen } (notices ++ [.showedLayer s.view layer])

/-- Shows a layer: it takes a layout and an attached view. -/
def select (d : Dispatcher) (layer : Layer) : Except KeyboardError Unit × Dispatcher :=
  match d.layout, d.screen with
  | none, _ => (.error (.noLayout layer), d.note [.noLayout layer])
  | some _, none => (.error (.noView layer), d.note [.noView layer])
  | some layout, some s => (.ok (), d.selectOn layout s layer)

/-! ### Saving -/

/-- Keeps the layer on the screen for later.  Gives whether there is one. -/
def save (d : Dispatcher) : Bool × Dispatcher :=
  match d.currentLayer? with
  | some layer => (true, note { d with saved := some layer } [.savedLayer layer])
  | none => (false, d)

/-! ### Description -/

/-- The structure of the dispatcher as a text. -/
def describe (d : Dispatcher) : String :=
  Text.outline "SwitcherCore"
    [("theme", Text.optional (d.theme.map fun bound => Text.quoted bound.theme.name)),
      ("key", Text.optional (d.configuration?.map Configuration.describe)),
      ("bundle", Text.optional (d.screen.map Screen.describe)),
      ("hardware_acceleration", Text.truth d.hardwareAcceleration),
      ("saved", Text.optional (d.saved.map Layer.label))] true

end Dispatcher

end SoftKeyboard
