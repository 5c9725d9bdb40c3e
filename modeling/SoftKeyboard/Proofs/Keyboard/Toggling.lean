import Mathlib.Data.List.Defs
import SoftKeyboard.Proofs.Keyboard.Availability
import SoftKeyboard.Proofs.Keyboard.Exclusion
import SoftKeyboard.Proofs.Keyboard.Reload

/-!
# Toggling the emoji panel

Toggling shows the emoji panel, or the alphabet if the panel is visible.  Where there is no layout,
it loads one first and shows the panel in any case, be it visible or not.

* `Dispatcher.Presents` says what a selection leaves on the view, and in the presenter behind it.
* With a layout, toggling is one selection (`Keyboard.toggleEmoji_of_visible`).  Without one, the
  load succeeds if the builder does, because the machine can show the alphabet
  (`Keyboard.load_eq_ok`).
* Nothing that leaves the layout and the visible surface alone disturbs the alternation
  (`Keyboard.toggles_eq`), which is proved by induction over the rounds, with the surface that is
  visible as the invariant.

`Keyboard.toggleEmoji_alternates` puts these together.
-/

namespace SoftKeyboard

/-! ### Panes -/

/-- The pane on which a layer is shown. -/
def Layer.pane (layer : Layer) : Pane := if layer = .emoji then .emoji else .main

namespace Pane

/-- The other member of the pair. -/
def other : Pane → Pane
  | main => emoji
  | emoji => main

/-- The layer that toggling shows on the pane. -/
def layer : Pane → Layer
  | main => .alphabet
  | emoji => .emoji

theorem pane_layer (pane : Pane) : pane.layer.pane = pane := by
  cases pane <;> rfl

end Pane

namespace Dispatcher

variable {d : Dispatcher} {layer : Layer}

/-- A view presents a layer: the pane of the layer is visible, the emoji panel has been started
exactly if it is that pane, and the main surface has a frame unless there is a hardware keyboard. -/
structure Presents (d : Dispatcher) (layer : Layer) : Prop where
  visible : d.visible? = some layer.pane
  shown : d.currentLayer? = some layer
  started : ∀ s, d.screen = some s → s.presenter.emojiStarted = decide (layer = .emoji)
  frame : layer ≠ .emoji →
    ∀ s, d.screen = some s → s.presenter.frameVisible = !d.live.hardwareKeyboard

theorem presents_selectOn {layout : Layout} (s : Screen) (layer : Layer)
    (hl : d.layout = some layout) : (d.selectOn layout s layer).Presents layer := by
  have hshown := currentLayer?_selectOn s layer hl
  unfold selectOn at hshown ⊢
  by_cases he : layer = .emoji
  · subst he
    rw [if_pos rfl] at hshown ⊢
    refine ⟨?_, hshown, ?_, fun h => absurd rfl h⟩
    · exact congrArg some (s.presenter.visible_showEmoji _ _ _)
    · rintro _ ⟨⟩
      exact ((Presenter.showsEmoji_iff _).1 (s.presenter.showsEmoji_showEmoji _ _ _)).2
  · rw [if_neg he] at hshown ⊢
    refine ⟨?_, hshown, ?_, fun _ => ?_⟩
    · rw [Layer.pane, if_neg he]
      rfl
    · rintro _ ⟨⟩
      exact (decide_eq_false he).symm
    · rintro _ ⟨⟩
      rfl

theorem presents_select (hok : (d.select layer).1 = .ok ()) :
    (d.select layer).2.Presents layer := by
  obtain ⟨hl, hs⟩ := (d.select_eq_ok_iff layer).1 hok
  obtain ⟨layout, hl⟩ := Option.ne_none_iff_exists'.1 hl
  obtain ⟨s, hs⟩ := Option.ne_none_iff_exists'.1 hs
  rw [select_of_eq_some layer hl hs]
  exact presents_selectOn s layer hl

theorem visible?_ne_none_iff : d.visible? ≠ none ↔ d.screen ≠ none :=
  not_congr Option.map_eq_none_iff

theorem prepare_of_built {env : Environment} {editor : Editor} {settings : Settings}
    {layout : Layout} (h : d.built env editor settings = .ok layout) :
    (d.prepare env editor settings).1 = .ok () := by
  rcases d.prepare_ends env editor settings with
    ⟨-, theme, texts, notices, hp⟩ | ⟨-, e, he, -⟩ | ⟨-, layout', -, theme, texts, notices, hp⟩
  · rw [hp]
  · cases h.symm.trans he
  · rw [hp]

end Dispatcher

namespace Keyboard

open Dispatcher

/-! ### One toggle -/

section

variable {σ : Type} {a : Assembly σ} {k : Keyboard σ}

/-- A layer that can be shown is presented, and its pane is given. -/
theorem selectPane_of_ready (hl : k.dispatcher.layout ≠ none) (hs : k.dispatcher.screen ≠ none)
    (layer : Layer) :
    (k.selectPane layer).1 = .ok layer.pane ∧
      (k.selectPane layer).2.dispatcher.Presents layer := by
  have hok := (k.dispatcher.select_eq_ok_iff layer).2 ⟨hl, hs⟩
  have hp := presents_select hok
  have hselect : k.select layer = (.ok (), k.withDispatcher (k.dispatcher.select layer).2) :=
    Prod.ext hok rfl
  unfold selectPane
  rw [hselect]
  refine ⟨?_, hp⟩
  show Except.ok ((k.dispatcher.select layer).2.visible?.getD .main) = _
  rw [hp.visible]
  rfl

theorem selectPane_of_screen_eq_none (hs : k.dispatcher.screen = none) (layer : Layer) :
    ∃ e, (k.selectPane layer).1 = .error e := by
  unfold selectPane
  split
  · exact ⟨_, rfl⟩
  · rename_i k' hselect
    have hok : (k.dispatcher.select layer).1 = .ok () := congrArg Prod.fst hselect
    exact absurd hs ((k.dispatcher.select_eq_ok_iff layer).1 hok).2

/-- **A toggle with a layout** is a selection on the pane that is not visible. -/
theorem toggleEmoji_of_visible {pane : Pane} (hl : k.dispatcher.layout ≠ none)
    (hv : k.dispatcher.visible? = some pane) (request : LoadRequest) :
    toggleEmoji a k request = k.selectPane pane.other.layer := by
  unfold toggleEmoji
  rw [if_neg (by rwa [Option.isNone_iff_eq_none]), showsEmoji, hv]
  cases pane <;> rfl

theorem toggleEmoji_of_load {request : LoadRequest} (hl : k.dispatcher.layout = none)
    (hok : (load a k request k.dispatcher.live).1 = .ok ()) :
    toggleEmoji a k request = (load a k request k.dispatcher.live).2.selectPane .emoji := by
  have hload : load a k request k.dispatcher.live =
      (.ok (), (load a k request k.dispatcher.live).2) := Prod.ext hok rfl
  unfold toggleEmoji
  rw [if_pos (Option.isNone_iff_eq_none.2 hl), hload]

theorem screen_load (a : Assembly σ) (k : Keyboard σ) (request : LoadRequest)
    (settings : Settings) :
    (load a k request settings).2.dispatcher.screen = none ↔ k.dispatcher.screen = none := by
  rw [sameHoldings_load.screen_eq_none_iff, (k.dispatcher.sameViews_prepare ..).1]

/-- Without a view nothing can be toggled. -/
theorem toggleEmoji_of_screen_eq_none (hs : k.dispatcher.screen = none) (request : LoadRequest) :
    ∃ e, (toggleEmoji a k request).1 = .error e := by
  unfold toggleEmoji
  split_ifs
  · split
    · exact ⟨_, rfl⟩
    · rename_i k' hload
      have hs' := (screen_load a k request k.dispatcher.live).2 hs
      rw [hload] at hs'
      exact selectPane_of_screen_eq_none hs' .emoji
  · exact selectPane_of_screen_eq_none hs .alphabet
  · exact selectPane_of_screen_eq_none hs .emoji

end

/-! ### The load that toggling makes -/

section

variable {a : Assembly Layer} {k : Keyboard Layer}

/-- A load that gets its layout succeeds where there is a view: the machine can show the
alphabet. -/
theorem load_eq_ok (hm : a.machine.LoadsHome) (hp : k.dispatcher.pending = [])
    (hs : k.dispatcher.screen ≠ none) {request : LoadRequest} {settings : Settings}
    (hok : (k.dispatcher.prepare a.toEnvironment request.editor settings).1 = .ok ()) :
    (load a k request settings).1 = .ok () := by
  have hscreen := (k.dispatcher.sameViews_prepare a.toEnvironment request.editor settings).1
  have hpending := k.dispatcher.pending_prepare a.toEnvironment request.editor settings
  have hlayout := (k.dispatcher.layout_prepare_ne_none_iff a.toEnvironment request.editor
    settings).2 (.inl hok)
  rw [load_eq]
  split <;> rename_i d hprepare <;> rw [hprepare] at hok hscreen hpending hlayout
  · cases hok
  · rw [drive_load hm (hpending.trans hp)]
    have hrun := StateMachine.run_moveTo (StateMachine.alphabetFor request.capitalization.flags)
      k.position d
    rw [← hm] at hrun
    rcases hrun with ⟨hmoved, -⟩ | ⟨-, hnone | hnone, -⟩
    · exact congrArg Prod.fst hmoved
    · exact absurd hnone hlayout
    · exact absurd (hscreen.symm.trans hnone) hs

end

end Keyboard

/-! ### Many toggles -/

namespace Operation

/-- Whether the operation leaves layout and visible surface alone: it neither loads nor shows a
layer, and touches neither the theme nor which view is attached. -/
def keepsPanes : Operation → Bool
  | command .releaseResources | command .hideWindow | command .save | setTimer _ | publish _
  | setMoreKeys _ => true
  | _ => false

end Operation

namespace Dispatcher

variable (d : Dispatcher)

theorem visible?_map {f : Screen → Screen}
    (hf : ∀ s, (f s).presenter.visible = s.presenter.visible) :
    ({ d with screen := d.screen.map f } : Dispatcher).visible? = d.visible? := by
  show (d.screen.map f).map _ = d.screen.map _
  rw [Option.map_map]
  exact congrArg d.screen.map (funext hf)

theorem visible?_releaseResources : d.releaseResources.visible? = d.visible? := by
  unfold releaseResources
  split
  · rfl
  · rename_i s hs
    rw [visible?, visible?, hs]
    rfl

theorem visible?_setMoreKeys (showing : Bool) :
    (d.setMoreKeys showing).2.visible? = d.visible? := by
  unfold Dispatcher.setMoreKeys
  split
  · rename_i s hs
    rw [visible?, visible?, hs]
    rfl
  · rfl
  · rfl

end Dispatcher

namespace Keyboard

open Dispatcher

section

variable {σ : Type} {a : Assembly σ} {k : Keyboard σ}

theorem panes_perform {operation : Operation} (ho : operation.keepsPanes = true) :
    (k.perform a operation).2.dispatcher.layout = k.dispatcher.layout ∧
      (k.perform a operation).2.dispatcher.visible? = k.dispatcher.visible? := by
  unfold Operation.keepsPanes at ho
  split at ho
  · exact ⟨k.dispatcher.sameFooting_releaseResources.layout,
      k.dispatcher.visible?_releaseResources⟩
  · exact ⟨rfl, k.dispatcher.visible?_map fun _ => rfl⟩
  · obtain ⟨hlayout, hscreen⟩ := footing_save a k
    exact ⟨hlayout, congrArg (Option.map fun s : Screen => s.presenter.visible) hscreen⟩
  · exact ⟨rfl, k.dispatcher.visible?_map fun _ => rfl⟩
  · exact ⟨rfl, rfl⟩
  · rename_i showing
    exact ⟨(k.dispatcher.sameFooting_setMoreKeys showing).layout,
      k.dispatcher.visible?_setMoreKeys showing⟩
  · cases ho

theorem panes_performAll {operations : List Operation}
    (ho : ∀ operation ∈ operations, operation.keepsPanes = true) :
    (k.performAll a operations).dispatcher.layout = k.dispatcher.layout ∧
      (k.performAll a operations).dispatcher.visible? = k.dispatcher.visible? := by
  induction operations generalizing k with
  | nil => exact ⟨rfl, rfl⟩
  | cons operation operations ih =>
    obtain ⟨hl, hv⟩ := panes_perform (a := a) (k := k) (ho operation List.mem_cons_self)
    obtain ⟨hl', hv'⟩ := ih (k := (k.perform a operation).2) fun o h =>
      ho o (List.mem_cons_of_mem _ h)
    exact ⟨hl'.trans hl, hv'.trans hv⟩

/-- A toggle, and what the host does before it. -/
structure Round where
  interlude : List Operation
  request : LoadRequest

/-- What toggling the emoji panel gives in one round after the other. -/
def toggles (a : Assembly σ) : Keyboard σ → List Round → List (Except KeyboardError Pane)
  | _, [] => []
  | k, round :: rounds =>
    let r := toggleEmoji a (k.performAll a round.interlude) round.request
    r.1 :: toggles a r.2 rounds

/-- **Toggles alternate**, whatever the machine and the requests, as long as nothing between them
touches the layout or the visible surface. -/
theorem toggles_eq {pane : Pane} (hl : k.dispatcher.layout ≠ none)
    (hv : k.dispatcher.visible? = some pane) {rounds : List Round}
    (hr : ∀ round ∈ rounds, ∀ operation ∈ round.interlude, operation.keepsPanes = true) :
    toggles a k rounds = (List.iterate Pane.other pane.other rounds.length).map .ok := by
  induction rounds generalizing k pane with
  | nil => rfl
  | cons round rounds ih =>
    obtain ⟨hl', hv'⟩ := panes_performAll (a := a) (k := k) (hr round List.mem_cons_self)
    rw [← hl'] at hl
    rw [← hv'] at hv
    have hs : (k.performAll a round.interlude).dispatcher.screen ≠ none :=
      visible?_ne_none_iff.1 fun h => nomatch hv.symm.trans h
    -- the toggle shows the other pane, and the layout stays
    obtain ⟨hok, hp⟩ := selectPane_of_ready hl hs pane.other.layer
    have hsame := sameHoldings_selectPane (k.performAll a round.interlude) pane.other.layer
    have hvisible := hp.visible
    rw [Pane.pane_layer] at hok hvisible
    have hrest := ih (by rwa [hsame.layout]) hvisible fun r h => hr r (List.mem_cons_of_mem _ h)
    rw [toggles, toggleEmoji_of_visible hl hv, hok, hrest]
    rfl

end

/-! ### All runs -/

variable {a : Assembly Layer} {k : Keyboard Layer}

/-- **A toggle with a view** presents the emoji panel if there was no layout or the main surface was
visible, and the alphabet otherwise. -/
theorem exists_presents_toggleEmoji (hm : a.machine.LoadsHome) (hp : k.dispatcher.pending = [])
    (hs : k.dispatcher.screen ≠ none) {request : LoadRequest}
    (hready : k.dispatcher.layout ≠ none ∨
      ∃ layout, k.dispatcher.built a.toEnvironment request.editor k.dispatcher.live = .ok layout) :
    ∃ pane : Pane,
      (pane = .emoji ↔ k.dispatcher.layout = none ∨ k.dispatcher.visible? = some .main) ∧
      (toggleEmoji a k request).1 = .ok pane ∧
      (toggleEmoji a k request).2.dispatcher.Presents pane.layer ∧
      (toggleEmoji a k request).2.dispatcher.layout ≠ none := by
  by_cases hl : k.dispatcher.layout = none
  · -- a layout is loaded first, and then the emoji panel is shown in any case
    obtain ⟨layout, hbuilt⟩ := hready.resolve_left (not_not_intro hl)
    have hprepare := prepare_of_built hbuilt
    have hload := load_eq_ok hm hp hs hprepare
    have hl' : (load a k request k.dispatcher.live).2.dispatcher.layout ≠ none := by
      rw [sameHoldings_load.layout]
      exact (k.dispatcher.layout_prepare_ne_none_iff ..).2 (.inl hprepare)
    have hs' := (not_congr (screen_load a k request k.dispatcher.live)).2 hs
    obtain ⟨hok, hpresents⟩ := selectPane_of_ready hl' hs' .emoji
    have hlayout := (sameHoldings_selectPane (load a k request k.dispatcher.live).2 .emoji).layout
    rw [toggleEmoji_of_load hl hload]
    exact ⟨.emoji, iff_of_true rfl (.inl hl), hok, hpresents, by rwa [hlayout]⟩
  · obtain ⟨pane, hv⟩ := Option.ne_none_iff_exists'.1 (visible?_ne_none_iff.2 hs)
    obtain ⟨hok, hpresents⟩ := selectPane_of_ready hl hs pane.other.layer
    have hlayout := (sameHoldings_selectPane k pane.other.layer).layout
    rw [Pane.pane_layer] at hok
    rw [toggleEmoji_of_visible hl hv]
    refine ⟨pane.other, ?_, hok, hpresents, by rwa [hlayout]⟩
    rw [hv, or_iff_right hl]
    cases pane <;> decide

/-- **The law of toggling.**  A keyboard with the basic or the extended machine, in any state that
it can reach, toggles its emoji panel.

* Without a view this fails.
* With a view it succeeds if there is a layout or the builder gives one.  It gives the emoji panel
  if there was no layout or the main surface was visible, and the main surface otherwise.  What it
  gives is visible then; the panel runs exactly if it is the panel; and if it is the main surface,
  that shows the alphabet, with its frame unless there is a hardware keyboard.
* From then on every further toggle gives the other one, as long as nothing between them touches the
  layout or the visible surface. -/
theorem toggleEmoji_alternates (a : Assembly Layer)
    (ha : a.machine = .basic ∨ a.machine = .extended) (live : Settings)
    (operations : List Operation) (request : LoadRequest) :
    let k := (start live .alphabet).performAll a operations
    let r := toggleEmoji a k request
    (k.dispatcher.screen = none → ∃ e, r.1 = .error e) ∧
    (k.dispatcher.screen ≠ none →
      (k.dispatcher.layout ≠ none ∨
        ∃ layout, k.dispatcher.built a.toEnvironment request.editor k.dispatcher.live =
          .ok layout) →
      ∃ pane, r.1 = .ok pane ∧
        (pane = .emoji ↔ k.dispatcher.layout = none ∨ k.dispatcher.visible? = some .main) ∧
        r.2.dispatcher.visible? = some pane ∧
        (∀ s, r.2.dispatcher.screen = some s →
          (s.record.emojiRunning = true ↔ pane = .emoji) ∧
          (pane = .main → s.record.frameVisible = !r.2.dispatcher.live.hardwareKeyboard)) ∧
        (pane = .main → r.2.dispatcher.currentLayer? = some .alphabet) ∧
        ∀ rounds : List Round,
          (∀ round ∈ rounds, ∀ operation ∈ round.interlude, operation.keepsPanes = true) →
          toggles a k (⟨[], request⟩ :: rounds) =
            (List.iterate Pane.other pane (rounds.length + 1)).map .ok) := by
  intro k r
  have hm : a.machine.LoadsHome := by
    rcases ha with ha | ha <;> rw [ha]
    · exact StateMachine.loadsHome_basic
    · exact StateMachine.loadsHome_extended
  have hp : k.dispatcher.pending = [] := pending_performAll rfl operations
  refine ⟨fun hs => toggleEmoji_of_screen_eq_none hs request, fun hs hready => ?_⟩
  obtain ⟨pane, hpane, hok, hpresents, hlayout⟩ := exists_presents_toggleEmoji hm hp hs hready
  have hvisible : r.2.dispatcher.visible? = some pane := by
    rw [← pane.pane_layer]
    exact hpresents.visible
  refine ⟨pane, hok, hpane, hvisible, fun s hr => ?_, ?_, fun rounds hrounds => ?_⟩
  · -- the record says what the presenter remembers
    have hviews := lifeCycle_exclusive.everyView_of_moves
      (everyView_performAll lifeCycle_exclusive a live .alphabet operations)
      (toggleEmoji_moves a k request)
    have hstep := (hviews.attached s hr).1
    rw [hstep.running, hstep.frame, hpresents.started s hr]
    constructor
    · cases pane <;> decide
    · rintro rfl
      exact hpresents.frame (by decide) s hr
  · rintro rfl
    exact hpresents.shown
  · rw [toggles]
    show r.1 :: toggles a r.2 rounds = _
    rw [hok, toggles_eq hlayout hvisible hrounds]
    rfl

/-- The panel is visible and its layout was dropped with the theme, so the first toggle shows it
once more. -/
theorem toggleEmoji_alternates_after_updateTheme :
    let a : Assembly Layer := ⟨.unsplit, .extended⟩
    let k := (start {} .alphabet).performAll a
      [.command (.createView false), .command (.toggleEmoji {}), .command (.updateTheme ⟨0⟩)]
    k.dispatcher.layout = none ∧ k.dispatcher.visible? = some .emoji ∧
      toggles a k
        [⟨[], {}⟩, ⟨[.publish { hardwareKeyboard := true }, .command .releaseResources], {}⟩,
          ⟨[], {}⟩] = [.ok .emoji, .ok .main, .ok .emoji] := by
  intro a k
  have hl : k.dispatcher.layout = none := by decide
  have hs : k.dispatcher.screen ≠ none := by decide
  have hbuilt : ∃ layout, k.dispatcher.built a.toEnvironment {} k.dispatcher.live = .ok layout :=
    ⟨_, rfl⟩
  obtain ⟨pane, -, hpane, -, -, -, hrounds⟩ := (toggleEmoji_alternates a (.inr rfl) {}
    [.command (.createView false), .command (.toggleEmoji {}), .command (.updateTheme ⟨0⟩)] {}).2
    hs (.inr hbuilt)
  obtain rfl := hpane.2 (.inl hl)
  refine ⟨hl, by decide, ?_⟩
  exact hrounds [⟨[.publish { hardwareKeyboard := true }, .command .releaseResources], {}⟩,
    ⟨[], {}⟩] (by decide)

end Keyboard

end SoftKeyboard
