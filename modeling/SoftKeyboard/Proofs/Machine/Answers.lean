import Mathlib.Tactic.SplitIfs
import SoftKeyboard.Keyboard.Basic
import SoftKeyboard.Machine.Basic
import SoftKeyboard.Machine.Extended

/-!
# What the machines answer with

The basic and the extended machine answer with few kinds of programs.  A program *rests* if it only
reports something and asks for an update of the shift state (`Program.Rests`), and it is *plain* if
it rests or moves to a layer (`Program.IsPlain`).  All answers of both machines are plain, apart
from that to a pressed shift key (`StateMachine.AnswersPlainly`).

So what both machines do to a dispatcher is what programs that rest, `StateMachine.moveTo` and
`StateMachine.pressShift` do.
-/

namespace SoftKeyboard

/-! ### Plain programs -/

namespace Program

/-- The program stays at a position: it reports something and asks for an update of the shift state
at most. -/
inductive Rests (position : Layer) : Program (Outcome × Layer) → Prop
  | stay : Rests position (StateMachine.stay position)
  | request (c : Capitalization) : Rests position (StateMachine.requestAndStay c position)
  | note (notice : Notice) {p : Program (Outcome × Layer)} :
    Rests position p → Rests position (.note notice p)

/-- The program stays at a position or moves from there to a layer. -/
inductive IsPlain (position : Layer) : Program (Outcome × Layer) → Prop
  | rests {p : Program (Outcome × Layer)} : Rests position p → IsPlain position p
  | moveTo (target : Layer) : IsPlain position (StateMachine.moveTo target position)

variable {p : Program (Outcome × Layer)} {position : Layer}

theorem IsPlain.stay : IsPlain position (StateMachine.stay position) := .rests .stay

theorem IsPlain.request (c : Capitalization) :
    IsPlain position (StateMachine.requestAndStay c position) := .rests (.request c)

/-- A program that rests touches nothing but the queue and the reports. -/
theorem Rests.exists_run_eq (h : p.Rests position) (d : Dispatcher) :
    ∃ pending notices, p.run d = ((.ok (), position), { d with pending, notices }) := by
  induction h generalizing d with
  | stay => exact ⟨d.pending, d.notices, rfl⟩
  | request c => exact ⟨d.pending ++ [c], d.notices, rfl⟩
  | note notice _ ih => exact ih (d.note [notice])

end Program

/-! ### What the programs do -/

namespace StateMachine

variable (target position : Layer) {d : Dispatcher}

/-- A move to a layer that can be shown ends there. -/
theorem run_moveTo_of_ok (h : (d.select target).1 = .ok ()) :
    (moveTo target position).run d = ((.ok (), target), (d.select target).2) := by
  have hselect : d.select target = (.ok (), (d.select target).2) := Prod.ext h rfl
  unfold moveTo Program.run
  rw [hselect]
  rfl

/-- A move to a layer that cannot be shown ends where it began. -/
theorem run_moveTo_of_error {e : KeyboardError} (h : (d.select target).1 = .error e) :
    (moveTo target position).run d = ((.error e, position), (d.select target).2) := by
  have hselect : d.select target = (.error e, (d.select target).2) := Prod.ext h rfl
  unfold moveTo Program.run
  rw [hselect]
  rfl

/-- While the timer is running, a press of the shift key cancels it and moves to the locked
layer. -/
theorem run_pressShift_of_timerRunning (h : d.timerRunning = true) :
    (pressShift position).run d =
      (moveTo .alphabetShiftLocked position).run (d.setTimer false) := by
  unfold pressShift
  rw [Program.run, h]
  rfl

/-- Otherwise it starts the timer. -/
theorem run_pressShift_of_not_timerRunning (h : d.timerRunning = false) :
    (pressShift position).run d = ((.ok (), position), d.setTimer true) := by
  unfold pressShift
  rw [Program.run, h]
  rfl

end StateMachine

/-! ### Machines -/

/-- Whether the callback is a press of the shift key. -/
def Callback.pressesShift : Callback → Bool
  | .input (.press code _) => code = .shift
  | _ => false

namespace StateMachine

open Program (IsPlain)

/-- A machine whose answers are plain, apart from that to a pressed shift key, and which keeps its
position when it is told to save it. -/
structure AnswersPlainly (m : StateMachine Layer) : Prop where
  react : ∀ callback c position, (m.react callback c position).IsPlain position ∨
    callback.pressesShift = true ∧ m.react callback c position = pressShift position
  save : ∀ position, (m.save position).2 = position

variable (position : Layer) (code : KeyCode) (c : Capitalization)

/-! ### The basic machine -/

theorem isPlain_basicPress (h : code ≠ .shift) : (basicPress code position).IsPlain position := by
  unfold basicPress
  rw [if_neg h]
  split_ifs
  · exact .moveTo .symbols
  · exact .moveTo .alphabet
  · exact .moveTo .emoji
  · exact .stay

theorem isPlain_basicRelease : (basicRelease code c position).IsPlain position := by
  unfold basicRelease
  split_ifs
  · -- the shift key, whose effect depends on the position
    split
    · exact .moveTo .alphabetManualShifted
    · exact .moveTo .alphabetManualShifted
    · exact .moveTo .alphabet
    · exact .stay
  · exact .request c
  · exact .stay

theorem isPlain_basicUpdateShift : (basicUpdateShift c position).IsPlain position := by
  unfold basicUpdateShift
  split
  · split_ifs
    · exact .stay
    · exact .moveTo .alphabetAutomaticShifted
  · split_ifs
    · exact .moveTo .alphabet
    · exact .stay
  · split_ifs
    · exact .moveTo .alphabet
    · exact .stay
  · exact .stay

theorem answersPlainly_basic : basic.AnswersPlainly where
  save _ := rfl
  react callback c position := by
    cases callback with
    | load => exact .inl (.moveTo (alphabetFor c.flags))
    | input i =>
      cases i with
      | reset => exact .inl (.moveTo .alphabet)
      | press code singlePointer =>
        by_cases h : code = .shift
        · exact .inr ⟨decide_eq_true h, if_pos h⟩
        · exact .inl (isPlain_basicPress position code h)
      | release code sliding => exact .inl (isPlain_basicRelease position code c)
      | finishSliding => exact .inl .stay
      | updateShift => exact .inl (isPlain_basicUpdateShift position c)
      | event e =>
        left
        simp only [basic]
        split_ifs
        · exact .stay
        · exact .request c

/-! ### The extended machine -/

theorem isPlain_extendedPress (h : code ≠ .shift) :
    (extendedPress code position).IsPlain position := by
  unfold extendedPress
  rw [if_neg h]
  split_ifs
  · exact .moveTo .symbols
  · exact .moveTo .alphabet
  · exact .moveTo .symbolsShifted
  · exact .moveTo .symbols
  · exact .moveTo .emoji
  · exact .stay

theorem isPlain_extendedRelease : (extendedRelease code c position).IsPlain position := by
  unfold extendedRelease
  split_ifs
  · split
    · exact .moveTo .alphabetManualShifted
    · exact .moveTo .alphabetManualShifted
    · exact .moveTo .alphabet
    · exact .moveTo .alphabet
    · exact .stay
  · exact .request c
  · exact .stay

theorem isPlain_extendedUpdateShift : (extendedUpdateShift c position).IsPlain position := by
  unfold extendedUpdateShift
  split
  · exact .moveTo (alphabetFor c.flags)
  · exact .moveTo (alphabetFor c.flags)
  · exact .moveTo (alphabetFor c.flags)
  · exact .stay

theorem answersPlainly_extended : extended.AnswersPlainly where
  save _ := rfl
  react callback c position := by
    cases callback with
    | load => exact .inl (.moveTo (alphabetFor c.flags))
    | input i =>
      cases i with
      | reset => exact .inl (.moveTo (alphabetFor c.flags))
      | press code singlePointer =>
        by_cases h : code = .shift
        · exact .inr ⟨decide_eq_true h, if_pos h⟩
        · exact .inl (isPlain_extendedPress position code h)
      | release code sliding => exact .inl (isPlain_extendedRelease position code c)
      | finishSliding => exact .inl (.request c)
      | updateShift => exact .inl (isPlain_extendedUpdateShift position c)
      | event e =>
        left
        simp only [extended]
        split
        · -- a text is reported first
          exact .rests (.note _ (.request c))
        · exact .request c

end StateMachine

end SoftKeyboard
