import Mathlib.Logic.Relation
import SoftKeyboard.Proofs.Dispatcher.Installation
import SoftKeyboard.Proofs.Dispatcher.Selection

/-!
# Moves of a dispatcher

Whatever happens to a keyboard happens to its dispatcher in single moves, and what holds along all
runs is derived from what one move does.

* `Dispatcher.Request` lists what a state machine can make of a dispatcher.  No request touches the
  layout, the texts, the theme or the number of the attached view (`SameHoldings`).
* `Dispatcher.Move` adds what a host can make of it.
* Updates of the theme, loads and saving leave all views as they are (`Dispatcher.SameViews`).
-/

namespace SoftKeyboard

open Relation

namespace Dispatcher

variable {d d' : Dispatcher}

/-! ### Requests of a state machine -/

/-- What one request of a state machine makes of a dispatcher. -/
inductive Request : Dispatcher → Dispatcher → Prop where
  | select (d : Dispatcher) (layer : Layer) : Request d (d.select layer).2
  | setTimer (d : Dispatcher) (running : Bool) : Request d (d.setTimer running)
  /-- Updates of the shift state are asked for, or taken from the queue. -/
  | queue (d : Dispatcher) (pending : List Capitalization) : Request d { d with pending }
  | note (d : Dispatcher) (notices : List Notice) : Request d (d.note notices)

/-- Two dispatchers differ at most in what a state machine can change: the state of the attached
view, the queue of updates of the shift state, and the reports. -/
structure SameHoldings (d d' : Dispatcher) : Prop where
  live : d'.live = d.live
  texts : d'.texts = d.texts
  theme : d'.theme = d.theme
  layout : d'.layout = d.layout
  view : d'.screen.map Screen.view = d.screen.map Screen.view
  retired : d'.retired = d.retired
  hardwareAcceleration : d'.hardwareAcceleration = d.hardwareAcceleration
  saved : d'.saved = d.saved
  builds : d'.builds = d.builds

theorem SameHoldings.refl (d : Dispatcher) : d.SameHoldings d :=
  ⟨rfl, rfl, rfl, rfl, rfl, rfl, rfl, rfl, rfl⟩

theorem SameHoldings.trans {d'' : Dispatcher} (h : d.SameHoldings d') (h' : d'.SameHoldings d'') :
    d.SameHoldings d'' where
  live := h'.live.trans h.live
  texts := h'.texts.trans h.texts
  theme := h'.theme.trans h.theme
  layout := h'.layout.trans h.layout
  view := h'.view.trans h.view
  retired := h'.retired.trans h.retired
  hardwareAcceleration := h'.hardwareAcceleration.trans h.hardwareAcceleration
  saved := h'.saved.trans h.saved
  builds := h'.builds.trans h.builds

theorem sameHoldings_selectOn {s : Screen} (layout : Layout) (layer : Layer)
    (hs : d.screen = some s) : d.SameHoldings (d.selectOn layout s layer) := by
  obtain ⟨s', notices, hc, he⟩ := d.exists_selectOn_eq layout s layer
  rw [he]
  refine ⟨rfl, rfl, rfl, rfl, ?_, rfl, rfl, rfl, rfl⟩
  show some s'.view = d.screen.map Screen.view
  rw [hs, hc.view_eq]
  rfl

theorem sameHoldings_select (d : Dispatcher) (layer : Layer) :
    d.SameHoldings (d.select layer).2 := by
  cases hl : d.layout with
  | none =>
    rw [select_of_layout_eq_none layer hl]
    exact ⟨rfl, rfl, rfl, rfl, rfl, rfl, rfl, rfl, rfl⟩
  | some layout =>
    cases hs : d.screen with
    | none =>
      rw [select_of_screen_eq_none layer hl hs]
      exact ⟨rfl, rfl, rfl, rfl, rfl, rfl, rfl, rfl, rfl⟩
    | some s =>
      rw [select_of_eq_some layer hl hs]
      exact sameHoldings_selectOn layout layer hs

theorem Request.sameHoldings (h : Request d d') : d.SameHoldings d' := by
  cases h with
  | select layer => exact d.sameHoldings_select layer
  | setTimer running =>
    refine ⟨rfl, rfl, rfl, rfl, ?_, rfl, rfl, rfl, rfl⟩
    show (d.screen.map _).map Screen.view = _
    rw [Option.map_map]
    rfl
  | queue pending => exact ⟨rfl, rfl, rfl, rfl, rfl, rfl, rfl, rfl, rfl⟩
  | note notices => exact ⟨rfl, rfl, rfl, rfl, rfl, rfl, rfl, rfl, rfl⟩

/-- No state machine touches what a dispatcher holds, however many requests it makes. -/
theorem sameHoldings_of_requests (h : ReflTransGen Request d d') : d.SameHoldings d' := by
  induction h with
  | refl => exact .refl d
  | tail _ hr ih => exact ih.trans hr.sameHoldings

/-! ### Moves of a host -/

/-- What a single move, of the state machine or of the host, makes of a dispatcher. -/
inductive Move (env : Environment) : Dispatcher → Dispatcher → Prop where
  | request {d d' : Dispatcher} (h : Request d d') : Move env d d'
  | updateTheme (d : Dispatcher) (id : ThemeId) : Move env d (d.updateTheme env id).2
  | prepare (d : Dispatcher) (editor : Editor) (settings : Settings) :
    Move env d (d.prepare env editor settings).2
  | createView (d : Dispatcher) (hardwareAcceleration : Bool) :
    Move env d (d.createView env hardwareAcceleration).2
  | destroyView (d : Dispatcher) : Move env d d.destroyView.2
  | releaseResources (d : Dispatcher) : Move env d d.releaseResources
  | hideWindow (d : Dispatcher) : Move env d d.hideWindow
  | save (d : Dispatcher) : Move env d d.save.2
  | forget (d : Dispatcher) : Move env d { d with saved := none }
  | publish (d : Dispatcher) (settings : Settings) : Move env d { d with live := settings }
  | setMoreKeys (d : Dispatcher) (showing : Bool) : Move env d (d.setMoreKeys showing).2

theorem moves_of_requests (env : Environment) (h : ReflTransGen Request d d') :
    ReflTransGen (Move env) d d' :=
  ReflTransGen.mono (fun _ _ => Move.request) _ _ h

/-- What every move keeps is kept by a chain of moves. -/
theorem of_moves {env : Environment} {P : Dispatcher → Prop}
    (hstep : ∀ {d d' : Dispatcher}, P d → Move env d d' → P d') (h : P d)
    (hm : ReflTransGen (Move env) d d') : P d' := by
  induction hm with
  | refl => exact h
  | tail _ hm ih => exact hstep ih hm

/-! ### What moves do to views -/

/-- Two dispatchers have the same views, in the same state. -/
def SameViews (d d' : Dispatcher) : Prop := d'.screen = d.screen ∧ d'.retired = d.retired

theorem sameViews_updateTheme (env : Environment) (d : Dispatcher) (id : ThemeId) :
    d.SameViews (d.updateTheme env id).2 := by
  dsimp only [updateTheme]
  split_ifs <;> exact ⟨rfl, rfl⟩

theorem sameViews_prepare (env : Environment) (d : Dispatcher) (editor : Editor)
    (settings : Settings) : d.SameViews (d.prepare env editor settings).2 := by
  rcases d.prepare_cases env editor settings with
    ⟨-, theme, builds, notices, h⟩ | ⟨e, theme, builds, notices, h⟩
  · rw [h]
    exact ⟨rfl, rfl⟩
  · rw [h]
    exact ⟨rfl, rfl⟩

theorem sameViews_save (d : Dispatcher) : d.SameViews d.save.2 := by
  unfold save
  split <;> exact ⟨rfl, rfl⟩

end Dispatcher

end SoftKeyboard
