import SoftKeyboard.Proofs.Keyboard.Exclusion
import SoftKeyboard.Proofs.Keyboard.Footing
import SoftKeyboard.Proofs.Keyboard.Passage

/-!
# The life of views

A view is attached, and closed when it is detached or another one takes its place.

* `Record.Open`: the view was not told yet that it will not be used again.  A fresh view is open,
  and nothing closes it but its being detached.
* `Record.Ended`: the view was told so, once and last, and nothing of it runs any longer.

`Keyboard.views_of_performAll`: after every run the views are numbered in the order in which they
were attached, all but the last are ended, and the last is open as long as it is attached.
-/

namespace SoftKeyboard

open Relation Dispatcher

/-! ### Open and ended views -/

namespace Record

/-- The view was not told yet that it will not be used again. -/
structure Open (r : Record) : Prop where
  closed : r.closed = false
  calls : SinkCall.closing ∉ r.calls

/-- The view was told that it will not be used again, with its last call and not before, its emoji
panel was stopped, and so was the timer of a double tap. -/
structure Ended (r : Record) : Prop where
  closed : r.closed = true
  calls : ∃ before, r.calls = before ++ [SinkCall.closing] ∧ SinkCall.closing ∉ before
  running : r.emojiRunning = false
  timer : r.timerRunning = false

theorem closed_applyAll (r : Record) {calls : List SinkCall} (h : SinkCall.closing ∉ calls) :
    (r.applyAll calls).closed = r.closed := by
  induction calls generalizing r with
  | nil => rfl
  | cons c calls ih =>
    obtain ⟨hc, hcalls⟩ := List.ne_and_not_mem_of_not_mem_cons h
    have hobey : (r.apply c).closed = r.closed := by
      cases c <;> first | rfl | contradiction
    show ((r.apply c).applyAll calls).closed = _
    rw [ih _ hcalls, hobey]

theorem Open.applyAll {r : Record} (h : r.Open) {calls : List SinkCall}
    (hc : SinkCall.closing ∉ calls) : (r.applyAll calls).Open where
  closed := (r.closed_applyAll hc).trans h.closed
  calls := by
    rw [calls_applyAll, List.mem_append, not_or]
    exact ⟨h.calls, hc⟩

end Record

namespace Presenter

variable (p : Presenter)

theorem closing_notMem_stopCalls : SinkCall.closing ∉ p.stopCalls := by
  unfold stopCalls
  split_ifs <;> simp

theorem closing_notMem_showMain (v : Variant) (presentation : Presentation) (collapse : Bool) :
    SinkCall.closing ∉ (p.showMain v presentation collapse).2 := by
  have hstop := p.closing_notMem_stopCalls
  unfold showMain frameCalls
  split_ifs <;> simp [hstop]

theorem closing_notMem_showEmoji (label : String) (look : Look) (icons : IconSet) :
    SinkCall.closing ∉ (p.showEmoji label look icons).2 := by
  unfold showEmoji frameCalls
  split_ifs <;> simp

theorem closing_notMem_releaseResources : SinkCall.closing ∉ p.releaseResources.2 := by
  have hstop := p.closing_notMem_stopCalls
  unfold releaseResources
  simp [hstop]

end Presenter

namespace Screen

variable {s : Screen}

theorem open_attach (view : Nat) (theme : String) (hardwareAcceleration listening : Bool) :
    (attach view theme hardwareAcceleration listening).record.Open := by
  refine Record.Open.applyAll ⟨rfl, List.not_mem_nil⟩ ?_
  simp [Presenter.openingCalls]

theorem open_change {s' : Screen} (h : s.record.Open) (hc : s.Change s') : s'.record.Open := by
  cases hc with
  | showMain v presentation collapse =>
    exact h.applyAll (s.presenter.closing_notMem_showMain v presentation collapse)
  | showEmoji label look icons =>
    exact h.applyAll (s.presenter.closing_notMem_showEmoji label look icons)
  | releaseResources => exact h.applyAll s.presenter.closing_notMem_releaseResources
  | hideWindow => exact h.applyAll (by simp)
  | setTimer running => exact ⟨h.closed, h.calls⟩
  | setMoreKeys showing => exact ⟨h.closed, h.calls⟩

/-- **Closing ends a view** that was open. -/
theorem ended_close (h : s.InStep) (ho : s.record.Open) : s.close.1.Ended := by
  have hclose : s.close.1 = (s.record.applyAll s.presenter.stopCalls).apply .closing :=
    List.foldl_append
  refine ⟨?_, ⟨s.record.calls ++ s.presenter.stopCalls, ?_, ?_⟩, ?_, ?_⟩
  · rw [hclose]
    rfl
  · show (s.record.applyAll s.presenter.closingCalls).calls = _
    rw [Record.calls_applyAll, Presenter.closingCalls, List.append_assoc]
  · rw [List.mem_append, not_or]
    exact ⟨ho.calls, s.presenter.closing_notMem_stopCalls⟩
  · -- the panel is stopped exactly if the presenter started it
    show (s.record.applyAll s.presenter.closingCalls).emojiRunning = false
    rw [Record.emojiRunning_applyAll, Presenter.traffic_closingCalls, h.running]
    cases s.presenter.emojiStarted <;> rfl
  · rw [hclose]
    rfl

end Screen

/-- A view in step is open until it is closed, and ended from then on. -/
theorem lifeCycle_ended :
    LifeCycle (fun s => s.InStep ∧ s.record.Open) Record.Ended where
  attach _ _ _ _ := ⟨Screen.inStep_attach .., Screen.open_attach ..⟩
  change _ _ h hc := ⟨h.1.change hc, Screen.open_change h.2 hc⟩
  close _ h := Screen.ended_close h.1 h.2
  setMoreKeys _ _ h := ⟨h.closed, h.calls, h.running, h.timer⟩

namespace Keyboard

variable {σ : Type}

/-! ### All runs -/

theorem numbered_performAll (a : Assembly σ) (live : Settings) (position : σ)
    (operations : List Operation) :
    ((start live position).performAll a operations).dispatcher.Numbered := by
  have hstart : (start live position).dispatcher.Numbered := rfl
  exact of_moves Numbered.move hstart (performAll_moves a (start live position) operations)

/-- Only attaching a view adds one. -/
theorem origins_perform_eq {a : Assembly σ} {k : Keyboard σ} {operation : Operation}
    (h : ¬AttachesView k operation) :
    (k.perform a operation).2.dispatcher.origins = k.dispatcher.origins := by
  rw [origins_perform]
  rcases opening_cases a k operation with hattach | hv
  · exact absurd hattach h
  · exact hv.change.origins_eq

/-- **The life of views.**  After every run:

* the views are numbered in the order in which they were attached, each operation that attaches one
  gives the next number, and no other operation adds a view;
* all views but the last are ended, and so is the last unless it is attached, in which case it is
  open;
* the keyboard names the last view if there is an attached one, and none otherwise; detaching gives
  what the keyboard named. -/
theorem views_of_performAll (a : Assembly σ) (live : Settings) (position : σ)
    (operations : List Operation) :
    let k := (start live position).performAll a operations
    let views := k.dispatcher.views
    views.map Record.view = List.range' 1 views.length ∧
    (∀ hardwareAcceleration,
      let r := k.perform a (.command (.createView hardwareAcceleration))
      r.1 = .view (some (views.length + 1)) ∧ r.2.dispatcher.views.length = views.length + 1) ∧
    (∀ operation, ¬AttachesView k operation →
      (k.perform a operation).2.dispatcher.views.length = views.length) ∧
    (∀ r ∈ views.dropLast, r.Ended) ∧
    (∀ r, views.getLast? = some r →
      (k.dispatcher.screen = none → r.Ended) ∧ (k.dispatcher.screen ≠ none → r.Open) ∧
        (r.closed = true ↔ k.dispatcher.screen = none)) ∧
    (∀ s, k.dispatcher.screen = some s → views.getLast? = some s.record) ∧
    k.snapshot.view = k.dispatcher.screen.map (fun _ => views.length) ∧
    (k.perform a (.command .destroyView)).1 = .view k.snapshot.view := by
  intro k views
  have hnumbered : k.dispatcher.Numbered := numbered_performAll a live position operations
  have hviews : k.dispatcher.EveryView _ _ :=
    everyView_performAll lifeCycle_ended a live position operations
  refine ⟨hnumbered, ?_, ?_, ?_, ?_, ?_, ?_, ?_⟩
  · intro hardwareAcceleration r
    obtain ⟨notices, hc⟩ := k.dispatcher.createView_eq a.toEnvironment hardwareAcceleration
    have hattaches := attaches_createView a.toEnvironment k.dispatcher hardwareAcceleration
    refine ⟨?_, hattaches.length_views⟩
    show Reply.view (some (k.dispatcher.createView a.toEnvironment hardwareAcceleration).1) = _
    rw [hc]
  · intro operation h
    exact length_views_eq (origins_perform_eq h)
  · exact hviews.of_mem_dropLast
  · intro r hr
    cases hs : k.dispatcher.screen with
    | none =>
      have hended : r.Ended := hviews.of_screen_eq_none hs r (List.mem_of_getLast? hr)
      exact ⟨fun _ => hended, fun h => absurd rfl h, iff_of_true hended.closed rfl⟩
    | some s =>
      obtain rfl := Option.some.inj ((getLast?_views hs).symm.trans hr)
      have hopen : s.record.Open := (hviews.attached s hs).2
      have hclosed : s.record.closed ≠ true := by
        rw [hopen.closed]
        exact Bool.false_ne_true
      exact ⟨fun h => (by cases h), fun _ => hopen, iff_of_false hclosed fun h => (by cases h)⟩
  · exact fun s hs => getLast?_views hs
  · show k.dispatcher.screen.map Screen.view = _
    cases hs : k.dispatcher.screen with
    | none => rfl
    | some s => exact congrArg some (hnumbered.view_eq hs)
  · obtain ⟨notices, hd⟩ := k.dispatcher.destroyView_eq
    show Reply.view k.dispatcher.destroyView.1 = _
    rw [hd]
    rfl

/-- A view is replaced while its emoji panel runs: the panel is stopped, the view is ended, and the
keyboard names the second view. -/
theorem views_of_replaced_panel :
    let a : Assembly Layer := ⟨.unsplit, .basic⟩
    let k := (start {} .alphabet).performAll a
      [.command (.createView false), .command (.toggleEmoji {}), .command (.createView true)]
    k.dispatcher.views.map Record.view = [1, 2] ∧
      (∃ r ∈ k.dispatcher.views, r.Ended ∧ SinkCall.emojiStop ∈ r.calls) ∧
      k.snapshot.view = some 2 ∧ (k.perform a (.command .destroyView)).1 = .view (some 2) := by
  intro a k
  have hlength : k.dispatcher.views.length = 2 := by decide +kernel
  have hscreen : k.dispatcher.screen.map (fun _ => 2) = some 2 := by decide +kernel
  obtain ⟨r, hr, hstop⟩ : ∃ r ∈ k.dispatcher.views.dropLast, SinkCall.emojiStop ∈ r.calls := by
    decide +kernel
  obtain ⟨hnumbered, -, -, hended, -, -, hview, hdestroy⟩ := views_of_performAll a {} .alphabet
    [.command (.createView false), .command (.toggleEmoji {}), .command (.createView true)]
  -- the run is written out, so that the facts are the goals literally and nothing is evaluated
  dsimp only [k, a] at hnumbered hended hview hdestroy hlength hscreen hr ⊢
  rw [hlength] at hnumbered hview
  rw [hscreen] at hview
  rw [hview] at hdestroy
  exact ⟨hnumbered, ⟨r, List.dropLast_subset _ hr, hended r hr, hstop⟩, hview, hdestroy⟩

end Keyboard

end SoftKeyboard
