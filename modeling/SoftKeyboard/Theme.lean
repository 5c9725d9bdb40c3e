import SoftKeyboard.Document.Decode

/-!
# Themes

The themes a keyboard can be drawn in, and the size of a keyboard under a theme on a display.  A
`BoundTheme` pairs the two.
-/

namespace SoftKeyboard

/-! ### Identifiers and looks -/

/-- The number by which settings name a theme. -/
structure ThemeId where
  number : UInt32 := 3
  deriving DecidableEq, Repr, Inhabited

namespace ThemeId

/-- The document of an identifier: its number. -/
def toDocument (id : ThemeId) : Document := .word id.number

/-- The identifier that a document spells. -/
def ofDocument? (d : Document) : Option ThemeId := d.toWord?.map ThemeId.mk

end ThemeId

/-- How keys are drawn: sizes of texts as fractions of the height of a key, and whether keys reach
their edges. -/
structure Look where
  labelRatio : Single
  hintRatio : Single
  previewRatio : Single
  edgeToEdge : Bool
  deriving DecidableEq, Repr, Inhabited

namespace Look

/-- Keys with a margin and small hints. -/
def framed : Look := ⟨.ofDecimal 55 2, .ofDecimal 18 2, .ofDecimal 82 2, false⟩

/-- Keys that reach their edges. -/
def flat : Look := ⟨.ofDecimal 5 1, .ofDecimal 2 1, .ofDecimal 8 1, true⟩

end Look

/-! ### Themes -/

/-- A theme with its default height in density-independent pixels. -/
structure Theme where
  id : ThemeId
  name : String
  defaultHeight : Single
  look : Look
  deriving DecidableEq, Repr

namespace Theme

/-- The oldest theme. -/
def ics : Theme := ⟨⟨0⟩, "ics", .ofDecimal 2056 1, .framed⟩

/-- The second theme. -/
def klp : Theme := ⟨⟨2⟩, "klp", .ofDecimal 2056 1, .framed⟩

/-- The light theme of the newer pair. -/
def lxxLight : Theme := ⟨⟨3⟩, "lxx_light", .ofDecimal 215 0, .flat⟩

/-- The dark theme of the newer pair. -/
def lxxDark : Theme := ⟨⟨4⟩, "lxx_dark", .ofDecimal 215 0, .flat⟩

/-- The themes in the order of their identifiers. -/
def all : List Theme := [ics, klp, lxxLight, lxxDark]

/-- The theme of an identifier that names none. -/
def fallback : Theme := lxxLight

instance : Inhabited Theme := ⟨fallback⟩

/-- The theme that an identifier names. -/
def find? (id : ThemeId) : Option Theme := all.find? fun theme => theme.id = id

/-- The theme that an identifier stands for: the one it names, or the fallback. -/
def resolve (id : ThemeId) : Theme := (find? id).getD fallback

end Theme

/-- The name of the theme, or its number when it names none. -/
def ThemeId.display (id : ThemeId) : String :=
  match Theme.find? id with
  | some theme => theme.name
  | none => s!"theme#{id.number.toNat}"

/-! ### Displays -/

/-- The size of a display in pixels, and its pixels per density-independent pixel. -/
structure Display where
  width : UInt32 := 1080
  height : UInt32 := 1920
  density : Single := .ofDecimal 2625 3
  deriving DecidableEq, Repr, Inhabited

/-- A theme on the display it is drawn on. -/
structure BoundTheme where
  theme : Theme
  display : Display
  deriving DecidableEq, Repr, Inhabited

namespace BoundTheme

/-- The width of the keyboard, which spans the display. -/
def keyboardWidth (b : BoundTheme) : UInt32 := b.display.width

/-- The height of the keyboard: the theme's default height, at most 0.46 and at least 0.2 of the
height of the display, times the scale, which is kept between 0.5 and 1.5. -/
def keyboardHeight (b : BoundTheme) (scale : Single) : UInt32 :=
  let available := Single.ofNat b.display.height.toNat
  let most := available.mul (.ofDecimal 46 2)
  let least := available.mul (.ofDecimal 2 1)
  let usual := ((b.theme.defaultHeight.mul b.display.density).min most).max least
  (usual.mul (scale.clamp (.ofDecimal 5 1) (.ofDecimal 15 1))).toWord

end BoundTheme

end SoftKeyboard
