import Mathlib.Tactic.Tauto
import SoftKeyboard.Keyboard.Operation

/-!
# Events in a run

An event is something that an operation may be, given the keyboard that it finds.
`Keyboard.Never` says that an event does not happen in a run, `Keyboard.Standing` that it happens
and is not undone afterwards.  A property that one event brings about, that another one undoes, and
that nothing else touches, holds after a run exactly if the first event stands, or if the property
held before and the second event never happens (`Keyboard.holds_performAll_iff`).
-/

namespace SoftKeyboard.Keyboard

variable {σ : Type}

/-! ### Events -/

/-- Something that an operation may be, given the keyboard that it finds. -/
abbrev Event (σ : Type) : Type := Keyboard σ → Operation → Prop

/-- The event happens at no operation of a run. -/
def Never (a : Assembly σ) (event : Event σ) (k : Keyboard σ) (operations : List Operation) :
    Prop :=
  ∀ before operation after, operations = before ++ operation :: after →
    ¬event (k.performAll a before) operation

/-- The event happens at an operation of a run, and is not undone by those after it. -/
def Standing (a : Assembly σ) (event undoing : Event σ) (k : Keyboard σ)
    (operations : List Operation) : Prop :=
  ∃ before operation after, operations = before ++ operation :: after ∧
    event (k.performAll a before) operation ∧
    Never a undoing ((k.performAll a before).perform a operation).2 after

variable {a : Assembly σ} {event undoing : Event σ} {k : Keyboard σ} {operation : Operation}
  {operations : List Operation}

theorem never_nil : Never a event k [] := by
  intro before operation after h
  cases before <;> cases h

theorem never_cons :
    Never a event k (operation :: operations) ↔
      ¬event k operation ∧ Never a event (k.perform a operation).2 operations := by
  constructor
  · intro h
    refine ⟨h [] operation operations rfl, fun before o after ho => ?_⟩
    exact h (operation :: before) o after (by rw [ho, List.cons_append])
  · rintro ⟨hfirst, hrest⟩ before o after ho
    rcases List.cons_eq_append_iff.1 ho with ⟨rfl, hnil⟩ | ⟨before', rfl, hcons⟩
    · obtain ⟨rfl, rfl⟩ := List.cons.inj hnil
      exact hfirst
    · exact hrest before' o after hcons

theorem never_append {more : List Operation} :
    Never a event k (operations ++ more) ↔
      Never a event k operations ∧ Never a event (k.performAll a operations) more := by
  induction operations generalizing k with
  | nil => exact (and_iff_right never_nil).symm
  | cons operation operations ih =>
    rw [List.cons_append, never_cons, never_cons, ih, and_assoc]
    rfl

theorem not_standing_nil : ¬Standing a event undoing k [] := by
  rintro ⟨before, operation, after, h, -⟩
  cases before <;> cases h

theorem standing_cons :
    Standing a event undoing k (operation :: operations) ↔
      event k operation ∧ Never a undoing (k.perform a operation).2 operations ∨
        Standing a event undoing (k.perform a operation).2 operations := by
  constructor
  · rintro ⟨before, o, after, ho, hevent, hnever⟩
    rcases List.cons_eq_append_iff.1 ho with ⟨rfl, hnil⟩ | ⟨before', rfl, hcons⟩
    · obtain ⟨rfl, rfl⟩ := List.cons.inj hnil
      exact .inl ⟨hevent, hnever⟩
    · exact .inr ⟨before', o, after, hcons, hevent, hnever⟩
  · rintro (⟨hevent, hnever⟩ | ⟨before, o, after, rfl, hevent, hnever⟩)
    · exact ⟨[], operation, operations, rfl, hevent, hnever⟩
    · exact ⟨operation :: before, o, after, rfl, hevent, hnever⟩

/-! ### Induction over a run -/

theorem performAll_concat (a : Assembly σ) (k : Keyboard σ) (operations : List Operation)
    (operation : Operation) :
    k.performAll a (operations ++ [operation]) =
      ((k.performAll a operations).perform a operation).2 := by
  unfold performAll
  rw [List.foldl_append]
  rfl

/-- **Induction over a run**: a property that an operation leaves exactly if it is the event, or if
it is not the undoing one and finds the property. -/
theorem holds_performAll_iff {P : Keyboard σ → Prop}
    (hstep : ∀ k operation, P (k.perform a operation).2 ↔
      event k operation ∨ ¬undoing k operation ∧ P k)
    (k : Keyboard σ) (operations : List Operation) :
    P (k.performAll a operations) ↔
      Standing a event undoing k operations ∨ Never a undoing k operations ∧ P k := by
  induction operations generalizing k with
  | nil =>
    constructor
    · exact fun h => .inr ⟨never_nil, h⟩
    · rintro (h | ⟨-, h⟩)
      · exact absurd h not_standing_nil
      · exact h
  | cons operation operations ih =>
    show P ((k.perform a operation).2.performAll a operations) ↔ _
    rw [ih, hstep, standing_cons, never_cons]
    tauto

/-- What every operation keeps that is not the event is kept by a run without the event. -/
theorem performAll_induction {P : Keyboard σ → Prop}
    (hstep : ∀ k operation, ¬event k operation → P k → P (k.perform a operation).2)
    (hnever : Never a event k operations) (h : P k) : P (k.performAll a operations) := by
  induction operations generalizing k with
  | nil => exact h
  | cons operation operations ih =>
    obtain ⟨hfirst, hrest⟩ := never_cons.1 hnever
    exact ih hrest (hstep k operation hfirst h)

end SoftKeyboard.Keyboard
