import SoftKeyboard.Document.Decode

/-!
# Layers of a keyboard

The eight layers that every layout of a soft keyboard has, with their order and names.
-/

namespace SoftKeyboard

/-- A layer of a keyboard: one arrangement of keys that a user can see. -/
inductive Layer where
  | alphabet
  | alphabetManualShifted
  | alphabetAutomaticShifted
  | alphabetShiftLocked
  | alphabetShiftLockShifted
  | symbols
  | symbolsShifted
  | emoji
  deriving DecidableEq, Repr, Inhabited

namespace Layer

/-- The layers in their order. -/
def all : List Layer :=
  [alphabet, alphabetManualShifted, alphabetAutomaticShifted, alphabetShiftLocked,
    alphabetShiftLockShifted, symbols, symbolsShifted, emoji]

/-- A layer's place in the order. -/
def index : Layer → Fin 8
  | alphabet => 0
  | alphabetManualShifted => 1
  | alphabetAutomaticShifted => 2
  | alphabetShiftLocked => 3
  | alphabetShiftLockShifted => 4
  | symbols => 5
  | symbolsShifted => 6
  | emoji => 7

/-- The name in layout descriptors and messages. -/
def name : Layer → String
  | alphabet => "alphabet"
  | alphabetManualShifted => "alphabet_manual_shifted"
  | alphabetAutomaticShifted => "alphabet_automatic_shifted"
  | alphabetShiftLocked => "alphabet_shift_locked"
  | alphabetShiftLockShifted => "alphabet_shift_lock_shifted"
  | symbols => "symbols"
  | symbolsShifted => "symbols_shifted"
  | emoji => "emoji"

/-- The name in reports. -/
def label : Layer → String
  | alphabet => "Alphabet"
  | alphabetManualShifted => "AlphabetManualShifted"
  | alphabetAutomaticShifted => "AlphabetAutomaticShifted"
  | alphabetShiftLocked => "AlphabetShiftLocked"
  | alphabetShiftLockShifted => "AlphabetShiftLockShifted"
  | symbols => "Symbols"
  | symbolsShifted => "SymbolsShifted"
  | emoji => "Emoji"

/-- The layers by their names. -/
def byName : List (String × Layer) := all.map fun layer => (layer.name, layer)

/-- The layer of a name. -/
def ofName? (name : String) : Option Layer := byName.lookup name

/-- Whether the layer is one of the five alphabet layers. -/
def isAlphabet : Layer → Bool
  | alphabet | alphabetManualShifted | alphabetAutomaticShifted | alphabetShiftLocked
  | alphabetShiftLockShifted => true
  | symbols | symbolsShifted | emoji => false

theorem all_getElem_index (layer : Layer) : all[layer.index]? = some layer := by
  cases layer <;> rfl

theorem ofName?_name (layer : Layer) : ofName? layer.name = some layer := by
  cases layer <;> decide

/-- The document of a layer: its name. -/
def toDocument (layer : Layer) : Document := .string layer.name

/-- The layer that a document names. -/
def ofDocument? : Document → Option Layer := Document.toChoice? byName

end Layer

end SoftKeyboard
