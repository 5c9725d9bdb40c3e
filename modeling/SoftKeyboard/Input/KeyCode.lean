/-!
# Key codes

The code of a character key is the character's code point; functional keys have negative codes.
-/

namespace SoftKeyboard

/-- The code of a key. -/
structure KeyCode where
  value : Int32
  deriving DecidableEq, Repr, Inhabited

namespace KeyCode

/-- The shift key. -/
def shift : KeyCode := ⟨-1⟩

/-- The key between the alphabet and the symbols. -/
def switchAlphaSymbol : KeyCode := ⟨-3⟩

/-- The key of a whole text. -/
def outputText : KeyCode := ⟨-4⟩

/-- The key to the emoji panel. -/
def emoji : KeyCode := ⟨-11⟩

/-- The key between the two pages of symbols. -/
def symbolShift : KeyCode := ⟨-13⟩

/-- The key from the emoji panel to the alphabet. -/
def alphaFromEmoji : KeyCode := ⟨-14⟩

/-- The code of a character key. -/
def ofChar (c : Char) : KeyCode := ⟨Int32.ofNat c.toNat⟩

/-- The character that a key types, if it is a character key. -/
def toChar? (code : KeyCode) : Option Char :=
  let value := code.value.toInt
  if 0 ≤ value ∧ (value.toNat < 0xd800 ∨ (0xdfff < value.toNat ∧ value.toNat < 0x110000)) then
    some (Char.ofNat value.toNat)
  else none

/-- Whether the key is a functional key. -/
def isFunctional (code : KeyCode) : Bool := code.value < 0

/-- The code in messages. -/
def describe (code : KeyCode) : String := s!"KeyCode({code.value.toInt})"

end KeyCode

end SoftKeyboard
