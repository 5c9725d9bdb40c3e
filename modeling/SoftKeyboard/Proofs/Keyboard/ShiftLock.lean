import SoftKeyboard.Proofs.Keyboard.Footing
import SoftKeyboard.Proofs.Keyboard.Reload

/-!
# The locked shift key

A keyboard is locked if the screen and the state machine are at the locked layer
(`Keyboard.AtLock`).  There most programs that the basic and the extended machine answer with rest
(`StateMachine.RestsAtLock`), whatever the host says about capitals: so do the updates of the shift
state that typing asks for.

`Keyboard.lock_is_stable`: a locked keyboard stays locked through any run of operations that do not
call the machine away from there (`Operation.sparesLock`), mixed with loads that do not get their
layout (`Keyboard.FailsToBuild`), and only those loads report an error.
-/

namespace SoftKeyboard

/-! ### What spares the lock -/

namespace KeyCode

/-- Whether the key leads from the locked layer to another one. -/
def leavesLock (code : KeyCode) : Bool :=
  code = .shift || code = .switchAlphaSymbol || code = .alphaFromEmoji || code = .emoji

theorem leavesLock_eq_false_iff {code : KeyCode} :
    code.leavesLock = false ↔
      code ≠ .shift ∧ code ≠ .switchAlphaSymbol ∧ code ≠ .alphaFromEmoji ∧ code ≠ .emoji := by
  simp only [leavesLock, Bool.or_eq_false_iff, decide_eq_false_iff_not, and_assoc]

end KeyCode

/-- Whether the input leaves a locked keyboard locked. -/
def Input.sparesLock : Input → Bool
  | .reset => false
  | .press code _ | .release code _ => !code.leavesLock
  | .finishSliding | .updateShift | .event _ => true

/-- Whether the operation leaves a locked keyboard locked. -/
def Operation.sparesLock : Operation → Bool
  | command (.input i _) => i.sparesLock
  | command .releaseResources | command .hideWindow | command .save => true
  | requestShift _ | setTimer _ | publish _ | setMoreKeys _ => true
  | _ => false

/-! ### Machines at the locked layer -/

namespace StateMachine

/-- A machine that rests at the locked layer unless it is told to leave. -/
def RestsAtLock (m : StateMachine Layer) : Prop :=
  ∀ (i : Input) (c : Capitalization), i.sparesLock = true →
    (m.react (.input i) c .alphabetShiftLocked).Rests .alphabetShiftLocked

variable {code : KeyCode} (c : Capitalization)

theorem rests_basicPress (h : code.leavesLock = false) :
    (basicPress code .alphabetShiftLocked).Rests .alphabetShiftLocked := by
  obtain ⟨hshift, hsymbol, halpha, hemoji⟩ := KeyCode.leavesLock_eq_false_iff.1 h
  unfold basicPress
  rw [if_neg hshift, if_neg fun h => hsymbol h.1, if_neg (not_or.2 ⟨hsymbol, halpha⟩),
    if_neg hemoji]
  exact .stay

theorem rests_basicRelease (h : code.leavesLock = false) :
    (basicRelease code c .alphabetShiftLocked).Rests .alphabetShiftLocked := by
  unfold basicRelease
  rw [if_neg (KeyCode.leavesLock_eq_false_iff.1 h).1]
  split_ifs
  · exact .request c
  · exact .stay

theorem restsAtLock_basic : basic.RestsAtLock := by
  intro i c h
  cases i with
  | reset => cases h
  | press code singlePointer => exact rests_basicPress (Bool.not_eq_true' _ ▸ h)
  | release code sliding => exact rests_basicRelease c (Bool.not_eq_true' _ ▸ h)
  | finishSliding => exact .stay
  | updateShift => exact .stay
  | event e =>
    simp only [basic]
    split_ifs
    · exact .stay
    · exact .request c

theorem rests_extendedPress (h : code.leavesLock = false) :
    (extendedPress code .alphabetShiftLocked).Rests .alphabetShiftLocked := by
  obtain ⟨hshift, hsymbol, halpha, hemoji⟩ := KeyCode.leavesLock_eq_false_iff.1 h
  -- the key between the pages of symbols does nothing on the alphabet
  have hpage : ¬(code = .symbolShift ∧ Layer.alphabetShiftLocked = .symbols) ∧
      ¬(code = .symbolShift ∧ Layer.alphabetShiftLocked = .symbolsShifted) :=
    ⟨fun h => (nomatch h.2), fun h => (nomatch h.2)⟩
  unfold extendedPress
  rw [if_neg hshift, if_neg fun h => hsymbol h.1, if_neg (not_or.2 ⟨hsymbol, halpha⟩),
    if_neg hpage.1, if_neg hpage.2, if_neg hemoji]
  exact .stay

theorem rests_extendedRelease (h : code.leavesLock = false) :
    (extendedRelease code c .alphabetShiftLocked).Rests .alphabetShiftLocked := by
  unfold extendedRelease
  rw [if_neg (KeyCode.leavesLock_eq_false_iff.1 h).1]
  split_ifs
  · exact .request c
  · exact .stay

theorem restsAtLock_extended : extended.RestsAtLock := by
  intro i c h
  cases i with
  | reset => cases h
  | press code singlePointer => exact rests_extendedPress (Bool.not_eq_true' _ ▸ h)
  | release code sliding => exact rests_extendedRelease c (Bool.not_eq_true' _ ▸ h)
  | finishSliding => exact .request c
  | updateShift => exact .stay
  | event e =>
    simp only [extended]
    split
    · exact .note _ (.request c)
    · exact .request c

end StateMachine

/-! ### Locked keyboards -/

namespace Keyboard

open Dispatcher StateMachine

/-- The screen and the state machine are at the locked layer. -/
structure AtLock (k : Keyboard Layer) : Prop where
  shown : k.dispatcher.currentLayer? = some .alphabetShiftLocked
  position : k.position = .alphabetShiftLocked

variable {a : Assembly Layer} {k : Keyboard Layer}

theorem AtLock.of_currentLayer?_eq (h : k.AtLock) {d : Dispatcher}
    (hd : d.currentLayer? = k.dispatcher.currentLayer?) : (k.withDispatcher d).AtLock :=
  ⟨hd.trans h.shown, h.position⟩

/-- A callback to a locked keyboard that spares the lock succeeds and leaves it locked. -/
theorem AtLock.react (hm : a.machine.RestsAtLock) (h : k.AtLock) {i : Input}
    (hi : i.sparesLock = true) (c : Capitalization) :
    (react a k (.input i) c).1 = .ok () ∧ (react a k (.input i) c).2.AtLock := by
  obtain ⟨pending, notices, hrun⟩ := (hm i c hi).exists_run_eq k.dispatcher
  unfold Keyboard.react
  rw [h.position, hrun]
  exact ⟨rfl, h.shown, rfl⟩

/-- So does an update of the shift state, whatever is left in the queue. -/
theorem AtLock.update (hm : a.machine.RestsAtLock) (h : k.AtLock) (pending : List Capitalization)
    (c : Capitalization) :
    let r := Keyboard.react a (k.withDispatcher { k.dispatcher with pending })
      (.input .updateShift) c
    r.1 = .ok () ∧ r.2.AtLock := by
  have hqueue : (k.withDispatcher { k.dispatcher with pending }).AtLock := ⟨h.shown, h.position⟩
  exact hqueue.react hm rfl c

/-- So do the updates of the shift state that are replayed, whatever they say about capitals. -/
theorem AtLock.replay (hm : a.machine.RestsAtLock) (budget : Nat) (h : k.AtLock) :
    (replay a budget k).1 = .ok () ∧ (replay a budget k).2.AtLock := by
  fun_induction Keyboard.replay a budget k with
  | case1 budget k hp => exact ⟨rfl, h⟩
  | case2 k c rest hp => exact ⟨rfl, h.shown, h.position⟩
  | case3 k c rest budget hp k' hk ih =>
    have hr := h.update hm rest c
    rw [hk] at hr
    exact ih hr.2
  | case4 k c rest budget hp e k' hk =>
    -- no update fails
    have hr := h.update hm rest c
    rw [hk] at hr
    cases hr.1

theorem AtLock.drive (hm : a.machine.RestsAtLock) (h : k.AtLock) {i : Input}
    (hi : i.sparesLock = true) (c : Capitalization) :
    (drive a k (.input i) c).1 = .ok () ∧ (drive a k (.input i) c).2.AtLock := by
  obtain ⟨hok, hlock⟩ := h.react hm hi c
  obtain ⟨hreplayed, hlock⟩ := hlock.replay hm maxReplays
  refine ⟨?_, hlock⟩
  show (Keyboard.react a k (.input i) c).1.bind _ = _
  rw [hok]
  exact hreplayed

theorem AtLock.requestShift (hm : a.machine.RestsAtLock) (h : k.AtLock) (c : Capitalization) :
    (k.requestShift a c).AtLock := by
  obtain ⟨hok, hlock⟩ := h.drive hm (i := .updateShift) rfl c
  unfold Keyboard.requestShift
  split <;> rename_i hr <;> rw [hr] at hok hlock
  · exact hlock
  · cases hok

theorem AtLock.save (ht : a.machine.Tracks) (h : k.AtLock) : (k.save a).AtLock := by
  refine ⟨?_, (position_save ht k).trans h.position⟩
  rcases save_cases a k with ⟨-, hs⟩ | ⟨layer, notices, position, signals, -, hs⟩ <;> rw [hs]
  · exact h.shown
  · exact h.shown

/-- **One operation** that spares the lock succeeds and leaves the keyboard locked. -/
theorem AtLock.perform (hm : a.machine.RestsAtLock) (ht : a.machine.Tracks) (h : k.AtLock)
    {operation : Operation} (ho : operation.sparesLock = true) :
    (k.perform a operation).1.error? = none ∧ (k.perform a operation).2.AtLock := by
  unfold Operation.sparesLock at ho
  split at ho
  · rename_i i c
    obtain ⟨hok, hlock⟩ := h.drive hm ho c
    refine ⟨?_, hlock⟩
    show Reply.error? (.outcome (Keyboard.drive a k (.input i) c).1) = none
    rw [hok]
    rfl
  · exact ⟨rfl, h.of_currentLayer?_eq k.dispatcher.currentLayer?_releaseResources⟩
  · exact ⟨rfl, h.of_currentLayer?_eq k.dispatcher.currentLayer?_hideWindow⟩
  · exact ⟨rfl, h.save ht⟩
  · rename_i c
    exact ⟨rfl, h.requestShift hm c⟩
  · rename_i running
    exact ⟨rfl, h.of_currentLayer?_eq (k.dispatcher.currentLayer?_setTimer running)⟩
  · exact ⟨rfl, h.of_currentLayer?_eq rfl⟩
  · rename_i showing
    exact ⟨rfl, h.of_currentLayer?_eq (k.dispatcher.currentLayer?_setMoreKeys showing)⟩
  · cases ho

/-! ### Runs -/

/-- The operation is a load of the host for which the builder is asked in vain. -/
def FailsToBuild (a : Assembly Layer) : Event Layer := fun k operation =>
  ∃ request settings e, operation = .command (.load request settings) ∧
    k.dispatcher.mustBuild a.toEnvironment request.editor settings = true ∧
    k.dispatcher.built a.toEnvironment request.editor settings = .error e

/-- The operation may call a locked keyboard away: it does not spare the lock, and it is not a load
that fails to build. -/
def MayUnlock (a : Assembly Layer) : Event Layer := fun k operation =>
  operation.sparesLock = false ∧ ¬FailsToBuild a k operation

theorem sparesLock_of_not_mayUnlock {operation : Operation} (h : ¬MayUnlock a k operation)
    (hf : ¬FailsToBuild a k operation) : operation.sparesLock = true := by
  cases ho : operation.sparesLock with
  | true => rfl
  | false => exact absurd ⟨ho, hf⟩ h

theorem never_mayUnlock_of_sparesLock {operations : List Operation}
    (h : ∀ operation ∈ operations, operation.sparesLock = true) :
    Never a (MayUnlock a) k operations := by
  rintro before operation after rfl ⟨ho, -⟩
  cases ho.symm.trans (h operation (List.mem_append_right before List.mem_cons_self))

theorem AtLock.of_failsToBuild (h : k.AtLock) {operation : Operation}
    (hf : FailsToBuild a k operation) : (k.perform a operation).2.AtLock := by
  obtain ⟨request, settings, e, rfl, hm, he⟩ := hf
  obtain ⟨-, hsame⟩ := undisturbed_of_build_error a k (.command (.load request settings)) rfl hm he
  exact ⟨hsame.currentLayer.trans h.shown, hsame.position.trans h.position⟩

theorem AtLock.performAll (hm : a.machine.RestsAtLock) (ht : a.machine.Tracks) (h : k.AtLock)
    {operations : List Operation} (hnever : Never a (MayUnlock a) k operations) :
    (k.performAll a operations).AtLock := by
  refine performAll_induction (fun k operation hstays h => ?_) hnever h
  by_cases hf : FailsToBuild a k operation
  · exact h.of_failsToBuild hf
  · exact (h.perform hm ht (sparesLock_of_not_mayUnlock hstays hf)).2

/-- **A locked shift key is stable.**  Let the screen and the state machine of a keyboard with the
basic or the extended machine be at the locked layer, in any state.  After any run that only presses
and releases keys which do not lead from there, passes on events, slides and updates of the shift
state with whatever they say about capitals, publishes settings, hides the window, releases what the
view holds on to, saves, and loads layouts that fail to build, the shift key is locked still and the
machine has not moved.  Each operation of the run but those loads has succeeded. -/
theorem lock_is_stable (a : Assembly Layer) (ha : a.machine = .basic ∨ a.machine = .extended)
    (k : Keyboard Layer) (hshown : k.dispatcher.currentLayer? = some .alphabetShiftLocked)
    (hposition : k.position = .alphabetShiftLocked) (operations : List Operation)
    (hnever : Never a (MayUnlock a) k operations) :
    (k.performAll a operations).dispatcher.shiftState = .manualShiftLocked ∧
      (k.performAll a operations).position = k.position ∧
      ∀ before operation after, operations = before ++ operation :: after →
        ¬FailsToBuild a (k.performAll a before) operation →
        ((k.performAll a before).perform a operation).1.error? = none := by
  have hm : a.machine.RestsAtLock := by
    rcases ha with ha | ha <;> rw [ha]
    · exact restsAtLock_basic
    · exact restsAtLock_extended
  have ht : a.machine.Tracks := by
    rcases ha with ha | ha <;> rw [ha]
    · exact tracks_basic
    · exact tracks_extended
  have h : k.AtLock := ⟨hshown, hposition⟩
  have hend := h.performAll hm ht hnever
  refine ⟨congrArg ShiftState.ofLayer hend.shown, hend.position.trans hposition.symm, ?_⟩
  rintro before operation after rfl hbuilds
  obtain ⟨hbefore, hafter⟩ := never_append.1 hnever
  have ho := sparesLock_of_not_mayUnlock (never_cons.1 hafter).1 hbuilds
  exact ((h.performAll hm ht hbefore).perform hm ht ho).1

/-- The builder without split layouts is asked for one in vain. -/
theorem built_unsplit {d : Dispatcher} {editor : Editor} {settings : Settings}
    (h : (d.derived .unsplit editor settings).split = true) :
    d.built .unsplit editor settings =
      .error (.missingDescriptor (d.derived .unsplit editor settings)) := by
  show (if (d.derived .unsplit editor settings).split then Except.error _ else Except.ok _) = _
  rw [if_pos h]

/-- A double tap locks the extended machine's keyboard.  A letter is typed in a field that asks for
capitals, so the machine asks for two updates of the shift state; then a split layout is not to be
had, and the window is hidden.  The shift key stays locked. -/
theorem lock_is_stable_while_typing :
    let a : Assembly Layer := ⟨.unsplit, .extended⟩
    let capitals : Capitalization := ⟨.sentences, .none⟩
    let k := (start {} .alphabet).performAll a
      [.command (.createView false), .command (.load {} {}),
        .command (.input (.press .shift true) {}), .command (.input (.press .shift true) {})]
    let typing : List Operation :=
      [.command (.input (.press (.ofChar 'a') true) capitals),
        .command (.input (.event (.ofKey (.ofChar 'a'))) capitals),
        .command (.input (.release (.ofChar 'a') false) capitals)]
    let failing : Operation := .command (.load {} { splitKeyboard := true })
    let k' := k.performAll a (typing ++ failing :: [.command .hideWindow])
    k.dispatcher.currentLayer? = some .alphabetShiftLocked ∧ k.position = .alphabetShiftLocked ∧
      ((k.performAll a typing).perform a failing).1.error?.isSome = true ∧
      k'.dispatcher.shiftState = .manualShiftLocked ∧ k'.position = .alphabetShiftLocked := by
  intro a capitals k typing failing k'
  have hshown : k.dispatcher.currentLayer? = some .alphabetShiftLocked := by decide
  have hposition : k.position = .alphabetShiftLocked := by decide
  have hfails : FailsToBuild a (k.performAll a typing) failing :=
    ⟨{}, { splitKeyboard := true }, _, rfl, by decide +kernel, built_unsplit (by decide +kernel)⟩
  have hnever : Never a (MayUnlock a) k (typing ++ failing :: [.command .hideWindow]) := by
    refine never_append.2 ⟨never_mayUnlock_of_sparesLock (by decide), never_cons.2 ⟨?_, ?_⟩⟩
    · exact fun h => h.2 hfails
    · exact never_mayUnlock_of_sparesLock (by decide)
  obtain ⟨hlocked, hstays, -⟩ := lock_is_stable a (.inr rfl) k hshown hposition
    (typing ++ failing :: [.command .hideWindow]) hnever
  exact ⟨hshown, hposition, by decide, hlocked, hstays.trans hposition⟩

end Keyboard

end SoftKeyboard
