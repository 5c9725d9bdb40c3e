import SoftKeyboard.Layer
import SoftKeyboard.Text.Quoted

/-!
# Capitalization

What the host says about capital letters at the cursor, and the state of the shift key that a layer
stands for.
-/

namespace SoftKeyboard

/-! ### Automatic capitals -/

/-- The automatic capitals that an editor asks for, as a word of flags. -/
structure CapsFlags where
  bits : UInt32 := 0
  deriving DecidableEq, Repr, Inhabited

namespace CapsFlags

/-- Every character. -/
def characters : CapsFlags := ⟨0x1000⟩

/-- The first character of every word. -/
def words : CapsFlags := ⟨0x2000⟩

/-- The first character of every sentence. -/
def sentences : CapsFlags := ⟨0x4000⟩

/-- All known flags. -/
def all : CapsFlags := ⟨0x7000⟩

/-- Whether no flag is set. -/
def isEmpty (f : CapsFlags) : Bool := f.bits = 0

/-- Whether all known flags are set. -/
def isAll (f : CapsFlags) : Bool := f.bits &&& all.bits = all.bits

/-- The known flags among those set. -/
def truncate (f : CapsFlags) : CapsFlags := ⟨f.bits &&& all.bits⟩

/-- The flags, if all of them are known. -/
def known? (f : CapsFlags) : Option CapsFlags := if f.truncate = f then some f else none

/-- The flags set in either. -/
def union (f g : CapsFlags) : CapsFlags := ⟨f.bits ||| g.bits⟩

/-- The flags set in both. -/
def inter (f g : CapsFlags) : CapsFlags := ⟨f.bits &&& g.bits⟩

/-- The flags set in the first alone. -/
def diff (f g : CapsFlags) : CapsFlags := ⟨f.bits &&& ~~~g.bits⟩

/-- Whether all flags of the second are set in the first. -/
def contains (f g : CapsFlags) : Bool := f.bits &&& g.bits = g.bits

/-- The names of the known flags. -/
def names : List (String × CapsFlags) :=
  [("CHARACTERS", characters), ("WORDS", words), ("SENTENCES", sentences)]

/-- The flags as a text: the names of those set, and the rest as a number. -/
def describe (f : CapsFlags) : String :=
  let named := (names.filter fun flag => f.contains flag.2).map Prod.fst
  let rest := f.diff all
  let unnamed := if rest.isEmpty then [] else ["0x" ++ Text.hexadecimal rest.bits.toNat]
  let parts := named ++ unnamed
  "AutoCapsFlags(" ++ (if parts.isEmpty then "0x0" else " | ".intercalate parts) ++ ")"

end CapsFlags

/-! ### Capitals of a selection -/

/-- Where the user is in the cycle of capitals of the selected text. -/
inductive Recapitalization where
  | none
  | asTyped
  | allLower
  | firstWordUpper
  | allUpper
  deriving DecidableEq, Repr, Inhabited

/-- What the host says about capitals: those the editor asks for, and the cycle of the selection. -/
structure Capitalization where
  flags : CapsFlags := {}
  recapitalization : Recapitalization := .none
  deriving DecidableEq, Repr, Inhabited

/-! ### The shift key -/

/-- The state of the shift key. -/
inductive ShiftState where
  | off
  | manualShifted
  | autoShifted
  | manualShiftLocked
  deriving DecidableEq, Repr, Inhabited

namespace ShiftState

/-- The state that the shown layer stands for; off if there is none. -/
def ofLayer : Option Layer → ShiftState
  | some .alphabetShiftLocked | some .alphabetShiftLockShifted => manualShiftLocked
  | some .alphabetManualShifted => manualShifted
  | some .alphabetAutomaticShifted => autoShifted
  | some .alphabet | some .symbols | some .symbolsShifted | some .emoji | none => off

/-- Whether letters are capital. -/
def isShifted (s : ShiftState) : Bool := s ≠ off

/-- The name in reports. -/
def label : ShiftState → String
  | off => "Off"
  | manualShifted => "ManualShifted"
  | autoShifted => "AutoShifted"
  | manualShiftLocked => "ManualShiftLocked"

end ShiftState

end SoftKeyboard
