import SoftKeyboard.Machine.Basic
import SoftKeyboard.Machine.Extended
import SoftKeyboard.Proofs.Dispatcher.Timer
import SoftKeyboard.Proofs.Keyboard.Delivery
import SoftKeyboard.Proofs.Keyboard.Footing
import SoftKeyboard.Proofs.Machine.Tracking

/-!
# Double taps of the shift key

A keyboard is *poised* at a layer if the layer is on the screen, the state machine is there too and
nothing can keep it from moving on: there are a layout and a view, and no update of the shift state
is pending (`Keyboard.Poised`).  Each press and each release of the shift key takes a poised
keyboard to a poised one.

Up to the second press the basic and the extended machine go the same way, which ends in the locked
layer.  They part at the last release: the basic machine stays, the extended one takes the release
of the second tap for a tap that unlocks (`Keyboard.double_tap_locks`).
-/

namespace SoftKeyboard

/-! ### Poised dispatchers -/

namespace Dispatcher

/-- A layer is on the screen, every other one can be shown, nothing is pending, and the timer of a
double tap is running or not. -/
structure Poised (d : Dispatcher) (layer : Layer) (running : Bool) : Prop where
  layout : d.layout ≠ none
  screen : d.screen ≠ none
  pending : d.pending = []
  shown : d.currentLayer? = some layer
  timer : d.timerRunning = running

variable {d : Dispatcher} {layer : Layer} {running : Bool}

theorem Poised.select (h : d.Poised layer running) (target : Layer) :
    (d.select target).1 = .ok () ∧ (d.select target).2.Poised target running := by
  have hsame := d.sameHoldings_select target
  rcases d.currentLayer?_select target with ⟨hok, hshown⟩ | ⟨-, hnone, -⟩
  · refine ⟨hok, ?_, ?_, ?_, hshown, ?_⟩
    · rw [hsame.layout]
      exact h.layout
    · exact fun hs => h.screen (hsame.screen_eq_none_iff.1 hs)
    · rw [d.pending_select]
      exact h.pending
    · rw [d.timerRunning_select]
      exact h.timer
  · rcases hnone with hl | hs
    · exact absurd hl h.layout
    · exact absurd hs h.screen

theorem Poised.setTimer (h : d.Poised layer running) (again : Bool) :
    (d.setTimer again).Poised layer again where
  layout := h.layout
  screen := by
    intro hs
    exact h.screen (Option.map_eq_none_iff.1 hs)
  pending := h.pending
  shown := (d.currentLayer?_setTimer again).trans h.shown
  timer := by
    have hsome : d.screen.isSome := Option.isSome_iff_ne_none.2 h.screen
    rw [d.timerRunning_setTimer, hsome, Bool.true_and]

end Dispatcher

/-! ### Programs -/

namespace StateMachine

variable {d : Dispatcher} {layer : Layer} {running : Bool}

theorem run_moveTo_of_poised (h : d.Poised layer running) (target position : Layer) :
    ((moveTo target position).run d).1 = (.ok (), target) ∧
      ((moveTo target position).run d).2.Poised target running := by
  obtain ⟨hok, hpoised⟩ := h.select target
  rw [run_moveTo_of_ok target position hok]
  exact ⟨rfl, hpoised⟩

/-- A first press starts the timer. -/
theorem run_pressShift_of_idle (h : d.Poised layer false) (position : Layer) :
    ((pressShift position).run d).1 = (.ok (), position) ∧
      ((pressShift position).run d).2.Poised layer true := by
  rw [run_pressShift_of_not_timerRunning position h.timer]
  exact ⟨rfl, h.setTimer true⟩

/-- A second press cancels the timer and locks. -/
theorem run_pressShift_of_running (h : d.Poised layer true) (position : Layer) :
    ((pressShift position).run d).1 = (.ok (), .alphabetShiftLocked) ∧
      ((pressShift position).run d).2.Poised .alphabetShiftLocked false := by
  rw [run_pressShift_of_timerRunning position h.timer]
  exact run_moveTo_of_poised (h.setTimer false) .alphabetShiftLocked position

end StateMachine

/-- The layers from which a tap of the shift key can be the first half of a double tap. -/
def Layer.IsUnlocked (layer : Layer) : Prop :=
  layer = .alphabet ∨ layer = .alphabetAutomaticShifted ∨ layer = .alphabetManualShifted

/-- The layer that a single tap of the shift key leads to from an unlocked one. -/
def Layer.tapped : Layer → Layer
  | .alphabet | .alphabetAutomaticShifted => .alphabetManualShifted
  | _ => .alphabet

/-- A machine whose shift key acts when it is pressed as in `pressShift`, and goes to and fro
between the alphabet and the manually shifted alphabet when it is released there. -/
structure StateMachine.TapsShift (m : StateMachine Layer) : Prop where
  press : ∀ singlePointer c position,
    m.react (.input (.press .shift singlePointer)) c position = pressShift position
  release : ∀ sliding c (position : Layer), position.IsUnlocked →
    m.react (.input (.release .shift sliding)) c position = moveTo position.tapped position

namespace StateMachine

/-- The extended machine asks for an update of the shift state when a slide ends, the basic one does
not. -/
theorem basic_ne_extended : basic ≠ extended := by
  intro h
  have hreact : basic.react (.input .finishSliding) {} .alphabet =
      extended.react (.input .finishSliding) {} .alphabet := by rw [h]
  cases hreact

theorem tapsShift_basic : basic.TapsShift where
  press _ _ _ := rfl
  release _ _ _ h := by
    rcases h with rfl | rfl | rfl <;> rfl

theorem tapsShift_extended : extended.TapsShift where
  press _ _ _ := rfl
  release _ _ _ h := by
    rcases h with rfl | rfl | rfl <;> rfl

end StateMachine

/-! ### Keyboards -/

/-- The shift key is pressed. -/
def Operation.pressShift (singlePointer : Bool) (c : Capitalization) : Operation :=
  .command (.input (.press .shift singlePointer) c)

/-- The shift key is released. -/
def Operation.releaseShift (sliding : Bool) (c : Capitalization) : Operation :=
  .command (.input (.release .shift sliding) c)

namespace Keyboard

open Operation StateMachine

/-- The screen and the state machine are at a layer, and can go to any other one. -/
structure Poised (k : Keyboard Layer) (layer : Layer) (running : Bool) : Prop where
  dispatcher : k.dispatcher.Poised layer running
  position : k.position = layer

variable {a : Assembly Layer} {k : Keyboard Layer} {layer : Layer} {running : Bool}

/-- A callback whose program succeeds at a layer, with the dispatcher poised there, leaves the
keyboard poised: no update of the shift state has to be run after it. -/
theorem perform_of_run {i : Input} {c : Capitalization} {p : Program (Outcome × Layer)}
    (hreact : a.machine.react (.input i) c k.position = p)
    (hrun : (p.run k.dispatcher).1 = (.ok (), layer) ∧
      (p.run k.dispatcher).2.Poised layer running) :
    ∃ k', k.perform a (.command (.input i c)) = (.outcome (.ok ()), k') ∧
      k'.Poised layer running := by
  rcases hp : p.run k.dispatcher with ⟨value, d⟩
  rw [hp] at hrun
  obtain ⟨rfl, hpoised⟩ := hrun
  let k' : Keyboard Layer := ⟨d, layer, k.signals ++ [.callback (.input i) c]⟩
  have hr : react a k (.input i) c = (.ok (), k') := by
    unfold react
    rw [hreact, hp]
  have hreplay : replay a maxReplays k' = (.ok (), k') := replay_of_nil a maxReplays hpoised.pending
  refine ⟨k', ?_, hpoised, rfl⟩
  show (Reply.outcome (drive a k (.input i) c).1, (drive a k (.input i) c).2) = _
  unfold drive
  rw [hr]
  dsimp only
  rw [hreplay]
  rfl

section Taps

variable (hm : a.machine.TapsShift)

include hm

theorem Poised.firstPress (h : k.Poised layer false) (singlePointer : Bool) (c : Capitalization) :
    ∃ k', k.perform a (pressShift singlePointer c) = (.outcome (.ok ()), k') ∧
      k'.Poised layer true := by
  refine perform_of_run (hm.press singlePointer c k.position) ?_
  have hrun := run_pressShift_of_idle h.dispatcher k.position
  rwa [h.position] at hrun ⊢

theorem Poised.secondPress (h : k.Poised layer true) (singlePointer : Bool) (c : Capitalization) :
    ∃ k', k.perform a (pressShift singlePointer c) = (.outcome (.ok ()), k') ∧
      k'.Poised .alphabetShiftLocked false :=
  perform_of_run (hm.press singlePointer c k.position)
    (run_pressShift_of_running h.dispatcher k.position)

theorem Poised.release (h : k.Poised layer running) (hlayer : layer.IsUnlocked) (sliding : Bool)
    (c : Capitalization) :
    ∃ k', k.perform a (releaseShift sliding c) = (.outcome (.ok ()), k') ∧
      k'.Poised layer.tapped running := by
  refine perform_of_run (hm.release sliding c k.position (h.position ▸ hlayer)) ?_
  rw [h.position]
  exact run_moveTo_of_poised h.dispatcher layer.tapped layer

/-- The first tap and the press of the second one lock, whatever the layer was. -/
theorem Poised.tap_press (h : k.Poised layer false) (hlayer : layer.IsUnlocked)
    (singlePointer singlePointer' sliding : Bool) (c c' c'' : Capitalization) :
    ∃ k₁ k₂ k₃, k.perform a (pressShift singlePointer c) = (.outcome (.ok ()), k₁) ∧
      k₁.perform a (releaseShift sliding c') = (.outcome (.ok ()), k₂) ∧
      k₂.perform a (pressShift singlePointer' c'') = (.outcome (.ok ()), k₃) ∧
      k₃.Poised .alphabetShiftLocked false := by
  obtain ⟨k₁, hpress, h₁⟩ := h.firstPress hm singlePointer c
  obtain ⟨k₂, hrelease, h₂⟩ := h₁.release hm hlayer sliding c'
  obtain ⟨k₃, hlock, h₃⟩ := h₂.secondPress hm singlePointer' c''
  exact ⟨k₁, k₂, k₃, hpress, hrelease, hlock, h₃⟩

end Taps

/-- The shift key is locked: so say the screen and the machine, and no double tap is under way. -/
structure ShiftLocked (k : Keyboard Layer) : Prop where
  shiftState : k.dispatcher.shiftState = .manualShiftLocked
  position : k.position = .alphabetShiftLocked
  timer : k.dispatcher.timerRunning = false

/-- The keyboard is at the plain alphabet with the shift key off, and no double tap is under way. -/
structure ShiftOff (k : Keyboard Layer) : Prop where
  shiftState : k.dispatcher.shiftState = .off
  position : k.position = .alphabet
  timer : k.dispatcher.timerRunning = false

theorem Poised.shiftState_eq (h : k.Poised layer running) :
    k.dispatcher.shiftState = .ofLayer (some layer) :=
  congrArg ShiftState.ofLayer h.dispatcher.shown

/-- **A double tap locks the shift key, but the extended machine unlocks it again.**  After any run
that leaves an unlocked layer on the screen and the machine there, with a layout and a view and no
double tap under way, two taps of the shift key succeed, whatever the host says with them.  The
second press locks.  With the basic machine the keyboard stays locked when the key is released; with
the extended one that release takes it back to the plain alphabet. -/
theorem double_tap_locks (a : Assembly Layer)
    (ha : a.machine = .basic ∨ a.machine = .extended) (live : Settings)
    (operations : List Operation) :
    let k := (start live .alphabet).performAll a operations
    k.dispatcher.layout ≠ none → k.dispatcher.screen ≠ none → k.dispatcher.timerRunning = false →
    k.dispatcher.currentLayer? = some k.position → k.position.IsUnlocked →
    ∀ (single single' sliding sliding' : Bool) (c₁ c₂ c₃ c₄ : Capitalization),
      ∃ k₁ k₂ k₃ k₄, k.perform a (pressShift single c₁) = (.outcome (.ok ()), k₁) ∧
        k₁.perform a (releaseShift sliding c₂) = (.outcome (.ok ()), k₂) ∧
        k₂.perform a (pressShift single' c₃) = (.outcome (.ok ()), k₃) ∧ k₃.ShiftLocked ∧
        k₃.perform a (releaseShift sliding' c₄) = (.outcome (.ok ()), k₄) ∧
        (a.machine = .basic → k₄.ShiftLocked) ∧ (a.machine = .extended → k₄.ShiftOff) := by
  intro k hlayout hscreen htimer hshown hposition single single' sliding sliding' c₁ c₂ c₃ c₄
  have hpending : k.dispatcher.pending = [] := pending_performAll rfl operations
  have hpoised : k.Poised k.position false :=
    ⟨⟨hlayout, hscreen, hpending, hshown, htimer⟩, rfl⟩
  have hm : a.machine.TapsShift := by
    rcases ha with ha | ha <;> rw [ha]
    · exact tapsShift_basic
    · exact tapsShift_extended
  obtain ⟨k₁, k₂, k₃, hpress, hrelease, hlock, h₃⟩ :=
    hpoised.tap_press hm hposition single single' sliding c₁ c₂ c₃
  have hlocked : k₃.ShiftLocked := ⟨h₃.shiftState_eq, h₃.position, h₃.dispatcher.timer⟩
  -- the machines part at the last release
  rcases ha with ha | ha
  · have hstay : a.machine.react (.input (.release .shift sliding')) c₄ k₃.position =
        stay .alphabetShiftLocked := by
      rw [ha, h₃.position]
      rfl
    obtain ⟨k₄, hlast, h₄⟩ := perform_of_run hstay ⟨rfl, h₃.dispatcher⟩
    refine ⟨k₁, k₂, k₃, k₄, hpress, hrelease, hlock, hlocked, hlast, fun _ => ?_, fun h => ?_⟩
    · exact ⟨h₄.shiftState_eq, h₄.position, h₄.dispatcher.timer⟩
    · exact absurd (ha.symm.trans h) basic_ne_extended
  · have hmove : a.machine.react (.input (.release .shift sliding')) c₄ k₃.position =
        moveTo .alphabet .alphabetShiftLocked := by
      rw [ha, h₃.position]
      rfl
    obtain ⟨k₄, hlast, h₄⟩ :=
      perform_of_run hmove (run_moveTo_of_poised h₃.dispatcher .alphabet .alphabetShiftLocked)
    refine ⟨k₁, k₂, k₃, k₄, hpress, hrelease, hlock, hlocked, hlast, fun h => ?_, fun _ => ?_⟩
    · exact absurd (h.symm.trans ha) basic_ne_extended
    · exact ⟨h₄.shiftState_eq, h₄.position, h₄.dispatcher.timer⟩

/-- On the basic machine's keyboard, two taps that begin at the automatically shifted alphabet. -/
theorem double_tap_locks_from_capital :
    let a : Assembly Layer := ⟨.unsplit, .basic⟩
    let k := (start {} .alphabet).performAll a
      [.command (.createView false), .command (.load ⟨{}, ⟨.sentences, .none⟩⟩ {})]
    k.position = .alphabetAutomaticShifted ∧ k.dispatcher.timerRunning = false ∧
      ∃ k₁ k₂ k₃ k₄, k.perform a (pressShift true {}) = (.outcome (.ok ()), k₁) ∧
        k₁.perform a (releaseShift false ⟨.words, .none⟩) = (.outcome (.ok ()), k₂) ∧
        k₂.perform a (pressShift false {}) = (.outcome (.ok ()), k₃) ∧
        k₃.perform a (releaseShift true {}) = (.outcome (.ok ()), k₄) ∧ k₄.ShiftLocked := by
  intro a k
  obtain ⟨k₁, k₂, k₃, k₄, h₁, h₂, h₃, -, h₄, hlocked, -⟩ :=
    double_tap_locks a (.inl rfl) {}
      [.command (.createView false), .command (.load ⟨{}, ⟨.sentences, .none⟩⟩ {})]
      (by decide) (by decide) rfl rfl (.inr (.inl rfl)) true false false true
      {} ⟨.words, .none⟩ {} {}
  exact ⟨rfl, rfl, k₁, k₂, k₃, k₄, h₁, h₂, h₃, h₄, hlocked rfl⟩

/-- On the extended machine's keyboard, two complete taps leave the shift key off. -/
theorem double_tap_unlocks :
    let a : Assembly Layer := ⟨.unsplit, .extended⟩
    let k := (start {} .alphabet).performAll a
      [.command (.createView false), .command (.load {} {})]
    let k' := k.performAll a
      [pressShift true {}, releaseShift false {}, pressShift true {}, releaseShift false {}]
    k.dispatcher.layout ≠ none ∧ k.dispatcher.screen ≠ none ∧ k.dispatcher.timerRunning = false ∧
      k.dispatcher.currentLayer? = some .alphabet ∧ k.position = .alphabet ∧
      k'.dispatcher.shiftState = .off ∧ k'.position = .alphabet := by
  decide

end Keyboard

end SoftKeyboard
