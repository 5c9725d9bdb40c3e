import SoftKeyboard.Machine.Extended
import SoftKeyboard.Proofs.Keyboard.Footing

/-!
# When a layer can be shown

A layer can be shown if there are a layout and an attached view.  Whether there are is a matter of
what the host has done: `Keyboard.select_answers_history` reads the answer to every selection off
the operations of the run, and says that once a load has succeeded with a view attached, nothing but
a change of the theme or the loss of the view makes a selection fail.
-/

namespace SoftKeyboard

namespace Dispatcher

variable (d : Dispatcher) (layer : Layer)

theorem select_eq_noLayout_iff :
    (d.select layer).1 = .error (.noLayout layer) ↔ d.layout = none := by
  cases hl : d.layout with
  | none =>
    rw [select_of_layout_eq_none layer hl]
    exact iff_of_true rfl rfl
  | some layout =>
    refine iff_of_false (fun h => ?_) (Option.some_ne_none layout)
    cases hs : d.screen with
    | none =>
      rw [select_of_screen_eq_none layer hl hs] at h
      cases h
    | some s =>
      rw [select_of_eq_some layer hl hs] at h
      cases h

theorem select_eq_noView_iff :
    (d.select layer).1 = .error (.noView layer) ↔ d.layout ≠ none ∧ d.screen = none := by
  cases hl : d.layout with
  | none =>
    rw [select_of_layout_eq_none layer hl]
    exact iff_of_false (fun h => nomatch h) fun h => h.1 rfl
  | some layout =>
    cases hs : d.screen with
    | none =>
      rw [select_of_screen_eq_none layer hl hs]
      exact iff_of_true rfl ⟨Option.some_ne_none layout, rfl⟩
    | some s =>
      rw [select_of_eq_some layer hl hs]
      exact iff_of_false (fun h => nomatch h) fun h => Option.some_ne_none s h.2

theorem select_eq_ok_iff :
    (d.select layer).1 = .ok () ↔ d.layout ≠ none ∧ d.screen ≠ none := by
  cases hl : d.layout with
  | none =>
    rw [select_of_layout_eq_none layer hl]
    exact iff_of_false (fun h => nomatch h) fun h => h.1 rfl
  | some layout =>
    cases hs : d.screen with
    | none =>
      rw [select_of_screen_eq_none layer hl hs]
      exact iff_of_false (fun h => nomatch h) fun h => h.2 rfl
    | some s =>
      rw [select_of_eq_some layer hl hs]
      exact iff_of_true rfl ⟨Option.some_ne_none layout, Option.some_ne_none s⟩

variable {d layer}

/-- A selection that fails leaves nothing but a report. -/
theorem select_of_error {e : KeyboardError} (h : (d.select layer).1 = .error e) :
    ∃ notices, (d.select layer).2 = { d with notices } := by
  rcases Option.eq_none_or_eq_some d.layout with hl | ⟨layout, hl⟩
  · rw [select_of_layout_eq_none layer hl]
    exact ⟨_, rfl⟩
  · rcases Option.eq_none_or_eq_some d.screen with hs | ⟨s, hs⟩
    · rw [select_of_screen_eq_none layer hl hs]
      exact ⟨_, rfl⟩
    · rw [select_of_eq_some layer hl hs] at h
      cases h

end Dispatcher

namespace Keyboard

open Dispatcher

variable {σ : Type}

/-! ### The history of layout and view -/

/-- The run has got a layout, and has not changed the theme since. -/
def HasLoaded (a : Assembly σ) (k : Keyboard σ) (operations : List Operation) : Prop :=
  Standing a (GetsLayout a) (ChangesTheme a) k operations

/-- The run has attached a view, and has not detached it since. -/
def HasAttached (a : Assembly σ) (k : Keyboard σ) (operations : List Operation) : Prop :=
  Standing a AttachesView DetachesView k operations

theorem layout_performAll_ne_none_iff (a : Assembly σ) (k : Keyboard σ)
    (operations : List Operation) :
    (k.performAll a operations).dispatcher.layout ≠ none ↔
      HasLoaded a k operations ∨
        Never a (ChangesTheme a) k operations ∧ k.dispatcher.layout ≠ none :=
  holds_performAll_iff (P := fun k => k.dispatcher.layout ≠ none) (layout_perform_ne_none_iff a) k
    operations

theorem screen_performAll_ne_none_iff (a : Assembly σ) (k : Keyboard σ)
    (operations : List Operation) :
    (k.performAll a operations).dispatcher.screen ≠ none ↔
      HasAttached a k operations ∨
        Never a DetachesView k operations ∧ k.dispatcher.screen ≠ none :=
  holds_performAll_iff (P := fun k => k.dispatcher.screen ≠ none) (screen_perform_ne_none_iff a) k
    operations

/-- A load that succeeds leaves a layout, and leaves the view attached that it finds. -/
theorem footing_of_load_ok {a : Assembly σ} {k : Keyboard σ} {request : LoadRequest}
    {settings : Settings}
    (hok : (k.perform a (.command (.load request settings))).1 = .outcome (.ok ())) :
    (k.perform a (.command (.load request settings))).2.dispatcher.layout ≠ none ∧
      ((k.perform a (.command (.load request settings))).2.dispatcher.screen = none ↔
        k.dispatcher.screen = none) := by
  have hp := prepare_of_load_ok (Reply.outcome.inj hok)
  have hl : k.loadOf (.command (.load request settings)) = some (request, settings) := rfl
  constructor
  · exact (layout_perform_ne_none_iff a k _).2 (.inl ⟨request, settings, hl, hp⟩)
  · exact screen_perform (fun ⟨_, h⟩ => nomatch h) fun h => nomatch h

/-- **Selections fail exactly when the history says so.**  After every run, a selection ends with
`noLayout` exactly if the run has no layout left, that is, if no load has got one since the start
and since the last change of the theme; otherwise with `noView` exactly if it has no view left, that
is, if none was attached since the start and since the last was detached; and otherwise it succeeds
and its layer is on the screen.  One that fails leaves nothing but a report.

Once a load has succeeded with a view attached, every selection succeeds after all operations that
do not change the theme and do not detach the view, or attach one again. -/
theorem select_answers_history (a : Assembly σ) (live : Settings) (position : σ)
    (operations : List Operation) :
    let k₀ := start live position
    let k := k₀.performAll a operations
    (∀ layer,
      ((k.select layer).1 = .error (.noLayout layer) ↔ ¬HasLoaded a k₀ operations) ∧
      ((k.select layer).1 = .error (.noView layer) ↔
        HasLoaded a k₀ operations ∧ ¬HasAttached a k₀ operations) ∧
      ((k.select layer).1 = .ok () ↔ HasLoaded a k₀ operations ∧ HasAttached a k₀ operations) ∧
      ((k.select layer).1 = .ok () →
        (k.select layer).2.dispatcher.currentLayer? = some layer) ∧
      ∀ e, (k.select layer).1 = .error e →
        ∃ notices, (k.select layer).2 = k.withDispatcher { k.dispatcher with notices }) ∧
    ∀ request settings more,
      let r := k.perform a (.command (.load request settings))
      r.1 = .outcome (.ok ()) → HasAttached a k₀ operations →
        Never a (ChangesTheme a) r.2 more →
        Never a DetachesView r.2 more ∨ HasAttached a r.2 more →
          ∀ layer, ((r.2.performAll a more).select layer).1 = .ok () := by
  intro k₀ k
  -- there is neither a layout nor a view at the start
  have hlayout : k.dispatcher.layout ≠ none ↔ HasLoaded a k₀ operations :=
    (layout_performAll_ne_none_iff a k₀ operations).trans (or_iff_left fun h => h.2 rfl)
  have hscreen : k.dispatcher.screen ≠ none ↔ HasAttached a k₀ operations :=
    (screen_performAll_ne_none_iff a k₀ operations).trans (or_iff_left fun h => h.2 rfl)
  refine ⟨fun layer => ⟨?_, ?_, ?_, ?_, ?_⟩, ?_⟩
  · rw [← hlayout, not_not]
    exact k.dispatcher.select_eq_noLayout_iff layer
  · rw [← hlayout, ← hscreen, not_not]
    exact k.dispatcher.select_eq_noView_iff layer
  · rw [← hlayout, ← hscreen]
    exact k.dispatcher.select_eq_ok_iff layer
  · exact currentLayer?_of_select_ok
  · intro e he
    obtain ⟨notices, h⟩ := select_of_error he
    exact ⟨notices, congrArg k.withDispatcher h⟩
  · intro request settings more r hok hattached htheme hview layer
    obtain ⟨hl, hs⟩ := footing_of_load_ok hok
    refine ((r.2.performAll a more).dispatcher.select_eq_ok_iff layer).2 ⟨?_, ?_⟩
    · exact (layout_performAll_ne_none_iff a r.2 more).2 (.inr ⟨htheme, hl⟩)
    · refine (screen_performAll_ne_none_iff a r.2 more).2 ?_
      rcases hview with hnever | hattach
      · exact .inr ⟨hnever, fun h => hscreen.2 hattached (hs.1 h)⟩
      · exact .inl hattach

/-- The machine cannot show a layer while the view is away, and a split layout is not to be had;
with a new view every layer can be shown again. -/
theorem select_answers_history_of_reattached :
    let a : Assembly Layer := ⟨.unsplit, .basic⟩
    let k := (start {} .alphabet).performAll a [.command (.createView false)]
    let r := k.perform a (.command (.load {} {}))
    let k' := r.2.performAll a
      [.command .destroyView, .command (.load {} {}),
        .command (.load {} { splitKeyboard := true }), .command (.createView true)]
    (k.select .symbols).1 = .error (.noLayout .symbols) ∧ r.1 = .outcome (.ok ()) ∧
      (k'.select .emoji).1 = .ok () := by
  intro a k r k'
  have h := select_answers_history a {} .alphabet [.command (.createView false)]
  have hunloaded : ¬HasLoaded a (start {} .alphabet) [.command (.createView false)] := by
    unfold HasLoaded
    rw [standing_cons]
    rintro (⟨⟨_, _, hl, -⟩, -⟩ | hrest)
    · cases hl
    · exact not_standing_nil hrest
  have hattached : HasAttached a (start {} .alphabet) [.command (.createView false)] :=
    standing_cons.2 (.inl ⟨⟨false, rfl⟩, never_nil⟩)
  have hok : r.1 = .outcome (.ok ()) := rfl
  refine ⟨(h.1 .symbols).1.2 hunloaded, hok, h.2 {} {} _ hok hattached ?_ (.inr ?_) .emoji⟩
  · -- no operation is a change of the theme
    simp only [never_cons, never_nil, and_true]
    refine ⟨?_, ?_, ?_, ?_⟩ <;> rintro ⟨_, ho, -⟩ <;> cases ho
  · -- the last one attaches a view
    refine standing_cons.2 (.inr (standing_cons.2 (.inr (standing_cons.2 (.inr ?_)))))
    exact standing_cons.2 (.inl ⟨⟨true, rfl⟩, never_nil⟩)

end Keyboard

end SoftKeyboard
