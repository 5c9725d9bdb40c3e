import SoftKeyboard.Proofs.Keyboard.Delivery
import SoftKeyboard.Proofs.Keyboard.Synchrony

/-!
# Reloading a view

A host that has to rebuild its view saves the layer on the screen, changes themes, views and
layouts, and restores the layer.  Restoring shows the layer without asking the state machine, and a
load that succeeds in between takes the machine to the alphabet.  So the machine may be elsewhere
than the screen afterwards (`Keyboard.restore_without_machine`).

`Keyboard.position_after_restore` says where it is: where the last load that succeeded took it
(`Keyboard.lastLoad?`), or where it was if there was none.
-/

namespace SoftKeyboard

open Dispatcher

theorem eq_ok_of_toOption {ε α : Type} {r : Except ε α} {x : α}
    (h : r.toOption = some x) : r = .ok x := by
  cases r with
  | error e => cases h
  | ok y => exact congrArg Except.ok (Option.some.inj h)

/-- The layer to which a load takes a state machine that returns to the alphabet. -/
def Keyboard.LoadRequest.home (request : Keyboard.LoadRequest) : Layer :=
  StateMachine.alphabetFor request.capitalization.flags

namespace Operation

/-- Whether the operation belongs to the reload of a view: it changes the theme, the view or the
layout. -/
def isReload : Operation → Bool
  | command (.updateTheme _) | command .destroyView | command (.createView _)
  | command (.load _ _) => true
  | _ => false

/-- The request of the operation if it is a load that succeeded. -/
def loaded? : Operation → Reply → Option Keyboard.LoadRequest
  | command (.load request _), .outcome (.ok ()) => some request
  | _, _ => none

end Operation

namespace StateMachine

/-- Told of a load, the machine goes to the alphabet, shifted if the editor asks for capitals, and
does nothing else. -/
def LoadsHome (m : StateMachine Layer) : Prop :=
  ∀ c position, m.react .load c position = moveTo (alphabetFor c.flags) position

theorem loadsHome_basic : basic.LoadsHome := fun _ _ => rfl

theorem loadsHome_extended : extended.LoadsHome := fun _ _ => rfl

theorem requested_moveTo (target position : Layer) (d : Dispatcher) :
    (moveTo target position).requested d = [] := by
  unfold moveTo Program.requested
  cases (d.select target).1 <;> rfl

end StateMachine

namespace Keyboard

/-- The request of the last load among operations that succeeded. -/
def lastLoad? {σ : Type} (a : Assembly σ) : Keyboard σ → List Operation → Option LoadRequest
  | _, [] => none
  | k, operation :: operations =>
    (lastLoad? a (k.perform a operation).2 operations).or
      (operation.loaded? (k.perform a operation).1)

variable {a : Assembly Layer} {k : Keyboard Layer}

/-! ### Where loads take the machine -/

/-- A load asks for no updates, so nothing happens to the machine after its callback. -/
theorem drive_load (hm : a.machine.LoadsHome) (hp : k.dispatcher.pending = [])
    (c : Capitalization) : drive a k .load c = react a k .load c := by
  have hr : Turn.requested a ⟨k, .load, c⟩ = [] := by
    show (a.machine.react .load c k.position).requested k.dispatcher = []
    rw [hm, StateMachine.requested_moveTo]
  exact driveTurn_of_requested_eq_nil a hp hr

theorem position_react_load (hm : a.machine.LoadsHome) (k : Keyboard Layer) (c : Capitalization) :
    (react a k .load c).1 = .ok () ∧
        (react a k .load c).2.position = StateMachine.alphabetFor c.flags ∨
      (∃ e, (react a k .load c).1 = .error e) ∧ (react a k .load c).2.position = k.position := by
  have hrun := StateMachine.run_moveTo (StateMachine.alphabetFor c.flags) k.position k.dispatcher
  rw [← hm] at hrun
  rcases hrun with ⟨hp, -⟩ | ⟨⟨e, hp⟩, -, -⟩
  · exact .inl ⟨congrArg Prod.fst hp, congrArg Prod.snd hp⟩
  · exact .inr ⟨⟨e, congrArg Prod.fst hp⟩, congrArg Prod.snd hp⟩

/-- A load that succeeds takes the machine home, and one that fails leaves it where it is. -/
theorem position_load (hm : a.machine.LoadsHome) (hp : k.dispatcher.pending = [])
    (request : LoadRequest) (settings : Settings) :
    (load a k request settings).1 = .ok () ∧
        (load a k request settings).2.position = request.home ∨
      (∃ e, (load a k request settings).1 = .error e) ∧
        (load a k request settings).2.position = k.position := by
  have hd := k.dispatcher.pending_prepare a.toEnvironment request.editor settings
  rw [load_eq]
  split
  · exact .inr ⟨⟨_, rfl⟩, rfl⟩
  · rename_i d h
    rw [h] at hd
    rw [drive_load hm (hd.trans hp)]
    exact position_react_load hm _ request.capitalization

/-- **One operation of a reload** moves the machine only if it is a load that succeeds. -/
theorem position_perform (hm : a.machine.LoadsHome) (hp : k.dispatcher.pending = [])
    {operation : Operation} (ho : operation.isReload = true) :
    (k.perform a operation).2.position =
      ((operation.loaded? (k.perform a operation).1).map LoadRequest.home).getD k.position := by
  unfold Operation.isReload at ho
  split at ho
  · rfl
  · rfl
  · rfl
  · rename_i request settings
    show (load a k request settings).2.position =
      ((Operation.loaded? _ (.outcome (load a k request settings).1)).map _).getD _
    rcases position_load hm hp request settings with ⟨hok, hposition⟩ | ⟨⟨e, he⟩, hposition⟩
    · rw [hok]
      exact hposition
    · rw [he]
      exact hposition
  · cases ho

/-- After the operations of a reload the machine is where the last load that succeeded took it. -/
theorem position_performAll (hm : a.machine.LoadsHome) (hp : k.dispatcher.pending = [])
    {operations : List Operation} (ho : ∀ operation ∈ operations, operation.isReload = true) :
    (k.performAll a operations).position =
      ((lastLoad? a k operations).map LoadRequest.home).getD k.position := by
  induction operations generalizing k with
  | nil => rfl
  | cons operation operations ih =>
    have hstep := position_perform (a := a) hm hp (ho operation List.mem_cons_self)
    have hrest := ih (pending_perform (a := a) hp operation) fun o h =>
      ho o (List.mem_cons_of_mem _ h)
    show ((k.perform a operation).2.performAll a operations).position = _
    rw [hrest, hstep, lastLoad?]
    -- a later load that succeeds counts before an earlier one
    cases lastLoad? a (k.perform a operation).2 operations <;> rfl

/-! ### Saving and restoring -/

theorem position_save (hm : a.machine.Tracks) (k : Keyboard Layer) :
    (k.save a).position = k.position := by
  unfold save
  split
  · rfl
  · exact hm.save k.position

/-- Restoring shows the layer that was kept and leaves the machine where it is. -/
theorem restore_of_ok {layer : Layer} (h : k.restore.1 = .ok (some layer)) :
    k.restore.2.dispatcher.currentLayer? = some layer ∧ k.restore.2.position = k.position := by
  unfold restore at h ⊢
  split at h
  · cases h
  · rename_i saved hsaved
    split at h
    · cases h
    · rename_i k' hk'
      obtain rfl : saved = layer := Option.some.inj (Except.ok.inj h)
      have hok : (k.dispatcher.select saved).1 = .ok () := congrArg Prod.fst hk'
      obtain rfl : k.withDispatcher (k.dispatcher.select saved).2 = k' := congrArg Prod.snd hk'
      refine ⟨?_, rfl⟩
      -- a selection that succeeds shows its layer
      rcases k.dispatcher.currentLayer?_select saved with ⟨-, hs⟩ | ⟨⟨e, he⟩, -⟩
      · exact hs
      · cases he.symm.trans hok

/-- **Where a reload leaves the state machine.**  A keyboard with the basic or the extended machine,
in any state that it can reach, shows a layer and its machine is there too.  The layer is saved, the
theme, the view and the layout are changed in any way, and the layer is restored.  Then it is on the
screen again, and the machine is where the last load that succeeded in between took it, or still at
the layer if there was none. -/
theorem position_after_restore (a : Assembly Layer)
    (ha : a.machine = .basic ∨ a.machine = .extended) (live : Settings)
    (operations reload : List Operation)
    (hreload : ∀ operation ∈ reload, operation.isReload = true) (layer : Layer) :
    let k := (start live .alphabet).performAll a operations
    let k' := (k.save a).performAll a reload
    k.dispatcher.currentLayer? = some layer → k.position = layer →
      k'.restore.1 = .ok (some layer) →
      k'.restore.2.dispatcher.currentLayer? = some layer ∧
        k'.restore.2.position =
          ((lastLoad? a (k.save a) reload).map LoadRequest.home).getD layer ∧
        (k'.restore.2.position = layer ↔
          ∀ request, lastLoad? a (k.save a) reload = some request → request.home = layer) := by
  intro k k' _ hposition hrestore
  have hm : a.machine.LoadsHome := by
    rcases ha with ha | ha <;> rw [ha] <;> intro c position <;> rfl
  have ht : a.machine.Tracks := by
    rcases ha with ha | ha <;> rw [ha]
    · exact StateMachine.tracks_basic
    · exact StateMachine.tracks_extended
  have hp : (k.save a).dispatcher.pending = [] := pending_save (pending_performAll rfl operations)
  have hk' : k'.position = ((lastLoad? a (k.save a) reload).map LoadRequest.home).getD layer := by
    rw [← hposition, ← position_save ht k]
    exact position_performAll hm hp hreload
  obtain ⟨hshown, hkept⟩ := restore_of_ok hrestore
  refine ⟨hshown, hkept.trans hk', ?_⟩
  rw [hkept, hk']
  cases lastLoad? a (k.save a) reload with
  | none => simp
  | some request => exact ⟨fun h _ hr => Option.some.inj hr ▸ h, fun h => h request rfl⟩

/-- The machine keeps its place when the load between fails because the view is gone. -/
theorem position_after_restore_of_detached :
    let a : Assembly Layer := ⟨.unsplit, .basic⟩
    let k := (start {} .alphabet).performAll a
      [.command (.createView false), .command (.load {} {}),
        .command (.input (.press .switchAlphaSymbol true) {})]
    let k' := (k.save a).performAll a
      [.command .destroyView, .command (.load {} {}), .command (.createView false)]
    k.position = .symbols ∧ k'.restore.2.dispatcher.currentLayer? = some .symbols ∧
      k'.restore.2.position = .symbols := by
  intro a k k'
  have hposition : k.position = .symbols := by decide
  have hshown : k.dispatcher.currentLayer? = some .symbols := by decide
  have hrestore : k'.restore.1 = .ok (some .symbols) := eq_ok_of_toOption (by decide)
  have hfailed : lastLoad? a (k.save a)
      [.command .destroyView, .command (.load {} {}), .command (.createView false)] = none := by
    decide
  have h := position_after_restore a (.inl rfl) {}
    [.command (.createView false), .command (.load {} {}),
      .command (.input (.press .switchAlphaSymbol true) {})]
    [.command .destroyView, .command (.load {} {}), .command (.createView false)]
    (by decide) .symbols hshown hposition hrestore
  dsimp only [k', k, a] at h hposition hfailed ⊢
  rw [hfailed] at h
  exact ⟨hposition, h.1, h.2.1⟩

/-- Restored on a view whose layout was loaded anew, the symbols are on the screen and the machine
is at the alphabet: the key that leads from the symbols to the alphabet shows the symbols once
more. -/
theorem restore_without_machine :
    let a : Assembly Layer := ⟨.unsplit, .basic⟩
    let k := (start {} .alphabet).performAll a
      [.command (.createView false), .command (.load {} {}),
        .command (.input (.press .switchAlphaSymbol true) {})]
    let k' := (k.save a).performAll a
      [.command .destroyView, .command (.createView false), .command (.load {} {})]
    k.dispatcher.currentLayer? = some .symbols ∧ k.position = .symbols ∧
      k'.restore.1 = .ok (some .symbols) ∧
      k'.restore.2.dispatcher.currentLayer? = some .symbols ∧
      k'.restore.2.position = .alphabet ∧
      (k'.restore.2.perform a (.command (.input (.press .switchAlphaSymbol true)
        {}))).2.dispatcher.currentLayer? = some .symbols := by
  refine ⟨rfl, rfl, rfl, rfl, rfl, rfl⟩

end Keyboard

end SoftKeyboard
