import SoftKeyboard.Proofs.Dispatcher.Selection
import SoftKeyboard.Proofs.Machine.Answers

/-!
# Machines that track the screen

A machine whose state is a layer *tracks* the screen if its position changes only together with the
layer on the screen (`StateMachine.Tracks`), and it *comes home* if a load and a reset take it to
the alphabet or to the automatically shifted alphabet, where updates of the shift state keep it
(`StateMachine.ComesHome`).  Both the basic and the extended machine do so: what the few programs do
that they answer with is a matter of `Dispatcher.currentLayer?_select`.
-/

namespace SoftKeyboard

/-! ### Following the screen -/

/-- The position after a step is on the screen, or neither position nor screen have changed. -/
def Follows (d : Dispatcher) (position : Layer) (d' : Dispatcher) (position' : Layer) : Prop :=
  d'.currentLayer? = some position' ∨ d'.currentLayer? = d.currentLayer? ∧ position' = position

namespace Follows

variable {d d' d'' : Dispatcher} {position position' position'' : Layer}

theorem refl (d : Dispatcher) (position : Layer) : Follows d position d position :=
  .inr ⟨rfl, rfl⟩

theorem of_currentLayer?_eq (h : d'.currentLayer? = d.currentLayer?) (position : Layer) :
    Follows d position d' position :=
  .inr ⟨h, rfl⟩

theorem trans (h : Follows d position d' position') (h' : Follows d' position' d'' position'') :
    Follows d position d'' position'' := by
  rcases h' with h' | ⟨hd, rfl⟩
  · exact .inl h'
  · rcases h with h | ⟨hd', rfl⟩
    · exact .inl (hd.trans h)
    · exact .inr ⟨hd.trans hd', rfl⟩

/-- A position on the screen stays there. -/
theorem currentLayer?_eq_some (h : Follows d position d' position')
    (hs : d.currentLayer? = some position) : d'.currentLayer? = some position' := by
  rcases h with h | ⟨hd, rfl⟩
  · exact h
  · exact hd.trans hs

end Follows

/-- Started at a position, the program ends at one that follows the screen. -/
def Program.Tracks (p : Program (Outcome × Layer)) (position : Layer) : Prop :=
  ∀ d, Follows d position (p.run d).2 (p.run d).1.2

/-- The two layers that a machine returns to. -/
def Layer.IsHome (layer : Layer) : Prop := layer = .alphabet ∨ layer = .alphabetAutomaticShifted

namespace StateMachine

/-! ### Programs of machines -/

variable (target position : Layer)

/-- A move ends at its target, which is on the screen then, or fails and changes nothing. -/
theorem run_moveTo (d : Dispatcher) :
    ((moveTo target position).run d).1 = (.ok (), target) ∧
        ((moveTo target position).run d).2.currentLayer? = some target ∨
      (∃ e, ((moveTo target position).run d).1 = (.error e, position)) ∧
        (d.layout = none ∨ d.screen = none) ∧
        ((moveTo target position).run d).2.currentLayer? = d.currentLayer? := by
  rcases d.currentLayer?_select target with ⟨hok, hs⟩ | ⟨⟨e, he⟩, hn, hs⟩
  · rw [run_moveTo_of_ok target position hok]
    exact .inl ⟨rfl, hs⟩
  · rw [run_moveTo_of_error target position he]
    exact .inr ⟨⟨e, rfl⟩, hn, hs⟩

theorem tracks_moveTo : (moveTo target position).Tracks position := by
  intro d
  rcases run_moveTo target position d with ⟨hp, hs⟩ | ⟨⟨e, hp⟩, -, hs⟩
  · rw [hp]
    exact .inl hs
  · rw [hp]
    exact .of_currentLayer?_eq hs position

variable {position} in
/-- Plain programs track the screen. -/
theorem tracks_of_isPlain {p : Program (Outcome × Layer)} (h : p.IsPlain position) :
    p.Tracks position := by
  cases h with
  | rests h =>
    intro d
    obtain ⟨pending, notices, hrun⟩ := h.exists_run_eq d
    rw [hrun]
    exact .of_currentLayer?_eq rfl position
  | moveTo target => exact tracks_moveTo target position

theorem tracks_pressShift : (pressShift position).Tracks position := by
  intro d
  cases h : d.timerRunning with
  | true =>
    have ht := tracks_moveTo .alphabetShiftLocked position (d.setTimer false)
    rw [run_pressShift_of_timerRunning position h]
    exact .trans (.of_currentLayer?_eq (d.currentLayer?_setTimer false) position) ht
  | false =>
    rw [run_pressShift_of_not_timerRunning position h]
    exact .of_currentLayer?_eq (d.currentLayer?_setTimer true) position

theorem isHome_alphabetFor (flags : CapsFlags) : (alphabetFor flags).IsHome := by
  unfold alphabetFor
  split_ifs
  · exact .inl rfl
  · exact .inr rfl

/-- A move between the two home layers ends in one of them. -/
theorem isHome_run_moveTo (ht : target.IsHome) (hp : position.IsHome) (d : Dispatcher) :
    ((moveTo target position).run d).1.2.IsHome := by
  rcases run_moveTo target position d with ⟨h, -⟩ | ⟨⟨e, h⟩, -⟩
  · rw [h]
    exact ht
  · rw [h]
    exact hp

/-! ### Machines -/

/-- A machine whose position changes only together with the layer on the screen. -/
structure Tracks (m : StateMachine Layer) : Prop where
  react : ∀ callback c position, (m.react callback c position).Tracks position
  save : ∀ position, (m.save position).2 = position

/-- A machine that returns to the alphabet when a layout is loaded and when it is told to, and goes
on to show it, shifted or not, through updates of the shift state. -/
structure ComesHome (m : StateMachine Layer) : Prop where
  lands : ∀ callback c position, callback = .load ∨ callback = .input .reset →
    ∃ target : Layer, target.IsHome ∧ m.react callback c position = moveTo target position
  stays : ∀ c (position : Layer) d, position.IsHome →
    ((m.react (.input .updateShift) c position).run d).1.2.IsHome

theorem AnswersPlainly.tracks {m : StateMachine Layer} (h : m.AnswersPlainly) : m.Tracks where
  save := h.save
  react callback c position := by
    rcases h.react callback c position with hp | ⟨-, hp⟩
    · exact tracks_of_isPlain hp
    · rw [hp]
      exact tracks_pressShift position

/-! ### The basic and the extended machine -/

/-- The basic machine tracks the screen. -/
theorem tracks_basic : basic.Tracks := answersPlainly_basic.tracks

/-- The extended machine tracks the screen. -/
theorem tracks_extended : extended.Tracks := answersPlainly_extended.tracks

/-- The basic machine comes home. -/
theorem comesHome_basic : basic.ComesHome where
  lands callback c position h := by
    rcases h with rfl | rfl
    · exact ⟨alphabetFor c.flags, isHome_alphabetFor c.flags, rfl⟩
    · exact ⟨.alphabet, .inl rfl, rfl⟩
  stays c position d h := by
    have halphabet : Layer.IsHome .alphabet := .inl rfl
    have hshifted : Layer.IsHome .alphabetAutomaticShifted := .inr rfl
    simp only [basic]
    rcases h with rfl | rfl
    · simp only [basicUpdateShift]
      split_ifs
      · exact halphabet
      · exact isHome_run_moveTo _ _ hshifted halphabet d
    · simp only [basicUpdateShift]
      split_ifs
      · exact isHome_run_moveTo _ _ halphabet hshifted d
      · exact hshifted

/-- The extended machine comes home. -/
theorem comesHome_extended : extended.ComesHome where
  lands callback c position h := by
    rcases h with rfl | rfl
    · exact ⟨alphabetFor c.flags, isHome_alphabetFor c.flags, rfl⟩
    · exact ⟨alphabetFor c.flags, isHome_alphabetFor c.flags, rfl⟩
  stays c position d h := by
    have htarget := isHome_alphabetFor c.flags
    rcases h with rfl | rfl
    · exact isHome_run_moveTo _ .alphabet htarget (.inl rfl) d
    · exact isHome_run_moveTo _ .alphabetAutomaticShifted htarget (.inr rfl) d

end StateMachine

end SoftKeyboard
