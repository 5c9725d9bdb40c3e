import SoftKeyboard.Proofs.Keyboard.Moves
import SoftKeyboard.Proofs.Machine.Tracking

/-!
# State machine and screen agree

A keyboard is synchronised if its screen shows no layer or the one at which its state machine is.
Toggling the emoji panel, restoring and selecting a layer directly go past the machine; everything
else keeps a keyboard synchronised, and a load and a reset make it so
(`Keyboard.synchronised_and_home`).

A callback of a machine that tracks the screen is a step that follows the screen
(`SoftKeyboard.Follows`), and so are the updates of the shift state after it
(`Keyboard.follows_drive`).  What a host does to the dispatcher alone leaves the layer on the screen
as it is or takes it away.
-/

namespace SoftKeyboard

open Dispatcher

namespace Keyboard

/-! ### Callbacks -/

/-- The screen shows no layer, or the one at which the state machine is. -/
def Synchronised (k : Keyboard Layer) : Prop :=
  k.dispatcher.currentLayer? = none ∨ k.dispatcher.currentLayer? = some k.position

/-- The screen and the state machine are at the alphabet, automatically shifted or not. -/
structure Home (k : Keyboard Layer) : Prop where
  shown : k.dispatcher.currentLayer? = some k.position
  isHome : k.position.IsHome

variable {a : Assembly Layer} {k k' : Keyboard Layer}

theorem Synchronised.of_follows (h : k.Synchronised)
    (hf : Follows k.dispatcher k.position k'.dispatcher k'.position) : k'.Synchronised := by
  rcases hf with hs | ⟨hd, hp⟩
  · exact .inr hs
  · unfold Synchronised
    rw [hd, hp]
    exact h

theorem Synchronised.of_none_or_eq (h : k.Synchronised) {d : Dispatcher}
    (hd : d.currentLayer? = none ∨ d.currentLayer? = k.dispatcher.currentLayer?) :
    (k.withDispatcher d).Synchronised := by
  rcases hd with hd | hd
  · exact .inl hd
  · exact h.of_follows (.of_currentLayer?_eq hd k.position)

theorem follows_react (hm : a.machine.Tracks) (k : Keyboard Layer) (callback : Callback)
    (c : Capitalization) :
    Follows k.dispatcher k.position (react a k callback c).2.dispatcher
      (react a k callback c).2.position :=
  hm.react callback c k.position k.dispatcher

theorem follows_replay (hm : a.machine.Tracks) (k : Keyboard Layer) (budget : Nat) :
    Follows k.dispatcher k.position (replay a budget k).2.dispatcher
      (replay a budget k).2.position := by
  refine replay_induction a k
    (P := fun k' => Follows k.dispatcher k.position k'.dispatcher k'.position)
    ?_ ?_ ?_ budget (.refl k.dispatcher k.position)
  · intro k' pending h
    exact h.trans (.of_currentLayer?_eq rfl k'.position)
  · intro k' notices h
    exact h.trans (.of_currentLayer?_eq rfl k'.position)
  · intro k' c h
    exact h.trans (follows_react hm k' (.input .updateShift) c)

theorem follows_drive (hm : a.machine.Tracks) (k : Keyboard Layer) (callback : Callback)
    (c : Capitalization) :
    Follows k.dispatcher k.position (drive a k callback c).2.dispatcher
      (drive a k callback c).2.position :=
  (follows_react hm k callback c).trans (follows_replay hm _ maxReplays)

/-! ### Coming home -/

/-- An update of the shift state leaves a machine that has come home there. -/
theorem Home.updateShift (hm : a.machine.Tracks) (hh : a.machine.ComesHome) (h : k.Home)
    (c : Capitalization) : (react a k (.input .updateShift) c).2.Home where
  shown := (follows_react hm k _ c).currentLayer?_eq_some h.shown
  isHome := hh.stays c k.position k.dispatcher h.isHome

theorem Home.replay (hm : a.machine.Tracks) (hh : a.machine.ComesHome) (h : k.Home)
    (budget : Nat) : (replay a budget k).2.Home := by
  refine replay_induction a k ?_ ?_ ?_ budget h
  · intro k' pending h
    exact ⟨h.shown, h.isHome⟩
  · intro k' notices h
    exact ⟨h.shown, h.isHome⟩
  · intro k' c h
    exact h.updateShift hm hh c

/-- A load and a reset bring the machine home, or they fail for want of a layout or of a view. -/
theorem react_cases (hh : a.machine.ComesHome) (k : Keyboard Layer) {callback : Callback}
    (c : Capitalization) (hc : callback = .load ∨ callback = .input .reset) :
    (react a k callback c).1 = .ok () ∧ (react a k callback c).2.Home ∨
      (∃ e, (react a k callback c).1 = .error e) ∧
        (k.dispatcher.layout = none ∨ k.dispatcher.screen = none) ∧
        (react a k callback c).2.dispatcher.currentLayer? = k.dispatcher.currentLayer? := by
  obtain ⟨target, htarget, hreact⟩ := hh.lands callback c k.position hc
  have hrun := StateMachine.run_moveTo target k.position k.dispatcher
  rw [← hreact] at hrun
  rcases hrun with ⟨hp, hs⟩ | ⟨⟨e, hp⟩, hnone, hs⟩
  · -- the position is the second part of what the program ends with
    refine .inl ⟨congrArg Prod.fst hp, ?_, ?_⟩
    · rw [show (react a k callback c).2.position = target from congrArg Prod.snd hp]
      exact hs
    · rw [show (react a k callback c).2.position = target from congrArg Prod.snd hp]
      exact htarget
  · exact .inr ⟨⟨e, congrArg Prod.fst hp⟩, hnone, hs⟩

/-- A load or a reset that succeeds brings the machine home, wherever it was. -/
theorem home_drive (hm : a.machine.Tracks) (hh : a.machine.ComesHome) {callback : Callback}
    {c : Capitalization} (hc : callback = .load ∨ callback = .input .reset)
    (hok : (drive a k callback c).1 = .ok ()) : (drive a k callback c).2.Home := by
  rcases react_cases hh k c hc with ⟨-, hhome⟩ | ⟨⟨e, he⟩, -⟩
  · -- the callback has come home, and the updates after it stay there
    exact hhome.replay hm hh maxReplays
  · replace hok : (react a k callback c).1.bind _ = .ok () := hok
    rw [he] at hok
    cases hok

/-! ### Loads -/

/-- With a layout, a load and a reset synchronise: the machine moves, or there is no view. -/
theorem synchronised_react (hh : a.machine.ComesHome) {callback : Callback} (c : Capitalization)
    (hc : callback = .load ∨ callback = .input .reset) (hl : k.dispatcher.layout ≠ none) :
    (react a k callback c).2.Synchronised := by
  rcases react_cases hh k c hc with ⟨-, hhome⟩ | ⟨-, hnone, hs⟩
  · exact .inr hhome.shown
  · left
    rw [hs]
    exact currentLayer?_of_screen_eq_none (hnone.resolve_left hl)

theorem synchronised_load (hm : a.machine.Tracks) (hh : a.machine.ComesHome) (h : k.Synchronised)
    (request : LoadRequest) (settings : Settings) :
    (load a k request settings).2.Synchronised := by
  rw [load_eq]
  rcases k.dispatcher.prepare_cases a.toEnvironment request.editor settings with
    ⟨hl, theme, builds, notices, hp⟩ | ⟨e, theme, builds, notices, hp⟩
  · -- of the dispatcher that drives the machine only its layout matters
    obtain ⟨d, hd, hp⟩ : ∃ d : Dispatcher, d.layout ≠ none ∧
        k.dispatcher.prepare a.toEnvironment request.editor settings = (.ok (), d) := ⟨_, hl, hp⟩
    have hr := synchronised_react (k := k.withDispatcher d) hh request.capitalization (.inl rfl) hd
    rw [hp]
    exact hr.of_follows (follows_replay hm _ maxReplays)
  · -- no layout can be built, and nothing that is on the screen has changed
    rw [hp]
    exact h.of_none_or_eq (.inr rfl)

theorem home_load (hm : a.machine.Tracks) (hh : a.machine.ComesHome) {request : LoadRequest}
    {settings : Settings} (hok : (load a k request settings).1 = .ok ()) :
    (load a k request settings).2.Home := by
  rw [load_eq] at hok ⊢
  rcases k.dispatcher.prepare_cases a.toEnvironment request.editor settings with
    ⟨-, theme, builds, notices, hp⟩ | ⟨e, theme, builds, notices, hp⟩
  · rw [hp] at hok ⊢
    exact home_drive hm hh (.inl rfl) hok
  · rw [hp] at hok
    cases hok

/-! ### Operations -/

end Keyboard

namespace Operation

/-- Whether the operation shows a layer without asking the state machine. -/
def bypassesMachine : Operation → Bool
  | command (.toggleEmoji _) | command .restore | select _ => true
  | _ => false

/-- Whether the operation takes the state machine back to the alphabet. -/
def recallsMachine : Operation → Bool
  | command (.load _ _) | command (.input .reset _) => true
  | _ => false

end Operation

namespace Keyboard

variable {a : Assembly Layer} {k : Keyboard Layer}

theorem synchronised_save (hm : a.machine.Tracks) (h : k.Synchronised) :
    (k.save a).Synchronised := by
  have hs := k.dispatcher.currentLayer?_save
  unfold save
  split <;> rename_i hd <;> rw [hd] at hs
  · exact h.of_none_or_eq (.inr hs)
  · refine h.of_follows (.inr ⟨hs, ?_⟩)
    exact hm.save k.position

theorem synchronised_requestShift (hm : a.machine.Tracks) (h : k.Synchronised)
    (c : Capitalization) : (k.requestShift a c).Synchronised := by
  have hd := h.of_follows (follows_drive hm k (.input .updateShift) c)
  unfold requestShift
  split <;> rename_i hr <;> rw [hr] at hd
  · exact hd
  · exact hd.of_none_or_eq (.inr rfl)

/-- An operation that asks the machine keeps a keyboard synchronised. -/
theorem synchronised_perform (hm : a.machine.Tracks) (hh : a.machine.ComesHome)
    (h : k.Synchronised) {operation : Operation} (ho : operation.bypassesMachine = false) :
    (k.perform a operation).2.Synchronised := by
  cases operation with
  | command command =>
    cases command with
    | updateTheme id => exact h.of_none_or_eq (k.dispatcher.currentLayer?_updateTheme _ id)
    | load request settings => exact synchronised_load hm hh h request settings
    | toggleEmoji request => cases ho
    | createView hardwareAcceleration =>
      exact h.of_none_or_eq (.inl (k.dispatcher.currentLayer?_createView _ hardwareAcceleration))
    | destroyView => exact h.of_none_or_eq (.inl k.dispatcher.currentLayer?_destroyView)
    | releaseResources =>
      exact h.of_none_or_eq (.inr k.dispatcher.currentLayer?_releaseResources)
    | hideWindow => exact h.of_none_or_eq (.inr k.dispatcher.currentLayer?_hideWindow)
    | save => exact synchronised_save hm h
    | restore => cases ho
    | input i c => exact h.of_follows (follows_drive hm k (.input i) c)
  | select layer => cases ho
  | requestShift c => exact synchronised_requestShift hm h c
  | setTimer running =>
    exact h.of_none_or_eq (.inr (k.dispatcher.currentLayer?_setTimer running))
  | publish settings => exact h.of_none_or_eq (.inr rfl)
  | setMoreKeys showing =>
    exact h.of_none_or_eq (.inr (k.dispatcher.currentLayer?_setMoreKeys showing))

theorem synchronised_performAll (hm : a.machine.Tracks) (hh : a.machine.ComesHome)
    (h : k.Synchronised) {operations : List Operation}
    (ho : ∀ operation ∈ operations, operation.bypassesMachine = false) :
    (k.performAll a operations).Synchronised := by
  induction operations generalizing k with
  | nil => exact h
  | cons operation operations ih =>
    have hk := synchronised_perform hm hh h (ho operation List.mem_cons_self)
    exact ih hk fun operation hmem => ho operation (List.mem_cons_of_mem _ hmem)

/-- A load or a reset that succeeds brings the keyboard home. -/
theorem home_perform (hm : a.machine.Tracks) (hh : a.machine.ComesHome) {operation : Operation}
    (ho : operation.recallsMachine = true) (hok : (k.perform a operation).1 = .outcome (.ok ())) :
    (k.perform a operation).2.Home := by
  unfold Operation.recallsMachine at ho
  split at ho
  · exact home_load hm hh (Reply.outcome.inj hok)
  · exact home_drive hm hh (.inr rfl) (Reply.outcome.inj hok)
  · cases ho

/-- **State machine and screen agree.**  A keyboard with the basic or the extended machine is
synchronised after every run that does not go past the machine, and every single operation that
does not keeps it so, from any state.  From any state, synchronised or not, a load or a reset that
succeeds leaves the machine at the alphabet, automatically shifted or not, and the screen with
it. -/
theorem synchronised_and_home (a : Assembly Layer)
    (ha : a.machine = .basic ∨ a.machine = .extended) :
    (∀ live operations, (∀ operation ∈ operations, operation.bypassesMachine = false) →
        ((start live .alphabet).performAll a operations).Synchronised) ∧
      (∀ (k : Keyboard Layer) operation, operation.bypassesMachine = false → k.Synchronised →
        (k.perform a operation).2.Synchronised) ∧
      ∀ (k : Keyboard Layer) operation, operation.recallsMachine = true →
        (k.perform a operation).1 = .outcome (.ok ()) →
        (k.perform a operation).2.dispatcher.currentLayer? =
            some (k.perform a operation).2.position ∧
          ((k.perform a operation).2.position = .alphabet ∨
            (k.perform a operation).2.position = .alphabetAutomaticShifted) := by
  have hm : a.machine.Tracks := by
    rcases ha with ha | ha <;> rw [ha]
    · exact StateMachine.tracks_basic
    · exact StateMachine.tracks_extended
  have hh : a.machine.ComesHome := by
    rcases ha with ha | ha <;> rw [ha]
    · exact StateMachine.comesHome_basic
    · exact StateMachine.comesHome_extended
  refine ⟨?_, ?_, ?_⟩
  · intro live operations ho
    have hstart : (start live Layer.alphabet).Synchronised := .inl rfl
    exact synchronised_performAll hm hh hstart ho
  · intro k operation ho h
    exact synchronised_perform hm hh h ho
  · intro k operation ho hok
    have hhome := home_perform hm hh ho hok
    exact ⟨hhome.shown, hhome.isHome⟩

/-- Toggling the emoji panel takes the screen away from the machine; a reset brings them together
again. -/
theorem synchronised_and_home_of_toggleEmoji :
    let a : Assembly Layer := ⟨.unsplit, .extended⟩
    let k := (start {} .alphabet).performAll a
      [.command (.createView false), .command (.load {} {})]
    let desynchronised := (k.perform a (.command (.toggleEmoji {}))).2
    let k' := (desynchronised.perform a (.command (.input .reset {}))).2
    k.Synchronised ∧ desynchronised.dispatcher.currentLayer? = some .emoji ∧
      desynchronised.position = .alphabet ∧ k'.dispatcher.currentLayer? = some k'.position ∧
      (k'.perform a (.command (.input (.press .shift true) {}))).2.Synchronised := by
  intro a k desynchronised k'
  have h := synchronised_and_home a (.inr rfl)
  have hhome := h.2.2 desynchronised (.command (.input .reset {})) rfl rfl
  refine ⟨?_, rfl, rfl, hhome.1, ?_⟩
  · exact h.1 {} [.command (.createView false), .command (.load {} {})] (by decide)
  · exact h.2.1 k' (.command (.input (.press .shift true) {})) rfl (.inr hhome.1)

end Keyboard

end SoftKeyboard
