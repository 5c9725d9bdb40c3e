import Mathlib.Data.List.Basic
import SoftKeyboard.Proofs.Dispatcher.Frames
import SoftKeyboard.Proofs.Dispatcher.Moves

/-!
# The views in a move

What a single move makes of the views is `Dispatcher.ViewsStep`: it leaves them alone, changes the
attached one, closes it, or touches the last one after it was closed.  Only attaching a view is of
another kind (`Dispatcher.Attaches`), as it adds one.  Two things follow.

* `LifeCycle.everyView_move` is the induction principle for views: what a fresh view has, what every
  change of an attached view keeps and what closing turns into something lasting holds of all views.
* No move takes a view away or gives it another number or theme (`ViewsStep.origins_eq`), and a view
  that is added has the next number and the theme that is bound (`Attaches.origins`).  So the views
  are numbered in the order in which they were attached (`Dispatcher.Numbered`).
-/

namespace SoftKeyboard

open Relation

namespace Dispatcher

variable {d d' : Dispatcher}

/-! ### What moves do to views -/

/-- What becomes of the views in a move that adds none, where `C` is what may happen to the attached
one. -/
inductive ViewsStep (C : Screen → Screen → Prop) (d d' : Dispatcher) : Prop where
  | kept (same : d.SameViews d')
  | changed {s s' : Screen} (before : d.screen = some s) (change : C s s')
    (screen : d'.screen = some s') (retired : d'.retired = d.retired)
  | detached (screen : d'.screen = none) (retired : d'.retired = d.closedViews)
  /-- The user opens or closes the panel of more keys on a view that is no longer attached. -/
  | touched {records : List Record} {r : Record} (showing : Bool) (before : d.screen = none)
    (last : d.retired = records ++ [r]) (screen : d'.screen = none)
    (retired : d'.retired = records ++ [r.setMoreKeys showing])

/-- A fresh view takes the place of the one before.  It has the next number, and the theme that is
bound then. -/
structure Attaches (d d' : Dispatcher) : Prop where
  screen : ∃ bound hardwareAcceleration listening, d'.theme = some bound ∧
    d'.screen = some (.attach (d.views.length + 1) bound.theme.name hardwareAcceleration listening)
  retired : d'.retired = d.closedViews

theorem attaches_createView (env : Environment) (d : Dispatcher) (hardwareAcceleration : Bool) :
    d.Attaches (d.createView env hardwareAcceleration).2 := by
  obtain ⟨notices, h⟩ := d.createView_eq env hardwareAcceleration
  rw [h]
  exact ⟨⟨_, _, _, rfl, rfl⟩, rfl⟩

section Steps

variable {C C' : Screen → Screen → Prop}

theorem ViewsStep.mono (hC : ∀ s s', C s s' → C' s s') (h : ViewsStep C d d') :
    ViewsStep C' d d' := by
  cases h with
  | kept same => exact .kept same
  | changed before change screen retired => exact .changed before (hC _ _ change) screen retired
  | detached screen retired => exact .detached screen retired
  | touched showing before last screen retired => exact .touched showing before last screen retired

theorem ViewsStep.change (h : ViewsStep Screen.Upkeep d d') : ViewsStep Screen.Change d d' :=
  h.mono fun _ _ hu => hu.change

variable (d)

theorem viewsStep_map {f : Screen → Screen} (hf : ∀ s, C s (f s)) :
    ViewsStep C d { d with screen := d.screen.map f } := by
  cases hs : d.screen with
  | none => exact .kept ⟨hs.symm, rfl⟩
  | some s => exact .changed hs (hf s) rfl rfl

theorem viewsStep_destroyView : ViewsStep C d d.destroyView.2 := by
  obtain ⟨notices, h⟩ := d.destroyView_eq
  rw [h]
  exact .detached rfl rfl

theorem viewsStep_releaseResources : ViewsStep Screen.Upkeep d d.releaseResources := by
  unfold releaseResources
  split
  · exact .kept ⟨rfl, rfl⟩
  · exact .changed ‹_› (.releaseResources _) rfl rfl

theorem viewsStep_setMoreKeys (showing : Bool) :
    ViewsStep Screen.Upkeep d (d.setMoreKeys showing).2 := by
  unfold Dispatcher.setMoreKeys
  cases hs : d.screen with
  | some s => exact .changed hs (.setMoreKeys s showing) rfl rfl
  | none =>
    cases hlast : d.retired.getLast? with
    | none => exact .kept ⟨rfl, rfl⟩
    | some r =>
      obtain ⟨records, hrecords⟩ := List.getLast?_eq_some_iff.1 hlast
      refine .touched showing hs hrecords rfl ?_
      rw [hrecords, List.dropLast_concat]

theorem viewsStep_select (layer : Layer) : ViewsStep Screen.Change d (d.select layer).2 := by
  cases hl : d.layout with
  | none =>
    rw [select_of_layout_eq_none layer hl]
    exact .kept ⟨rfl, rfl⟩
  | some layout =>
    cases hs : d.screen with
    | none =>
      rw [select_of_screen_eq_none layer hl hs]
      exact .kept ⟨rfl, rfl⟩
    | some s =>
      obtain ⟨s', notices, hc, he⟩ := d.exists_selectOn_eq layout s layer
      rw [select_of_eq_some layer hl hs]
      show ViewsStep Screen.Change d (d.selectOn layout s layer)
      rw [he]
      exact .changed hs hc rfl rfl

variable {d}

theorem Request.viewsStep (h : Request d d') : ViewsStep Screen.Change d d' := by
  cases h with
  | select layer => exact d.viewsStep_select layer
  | setTimer running => exact d.viewsStep_map fun s => .setTimer s running
  | queue pending => exact .kept ⟨rfl, rfl⟩
  | note notices => exact .kept ⟨rfl, rfl⟩

/-- **What a move does to the views.** -/
theorem Move.viewsStep {env : Environment} (h : Move env d d') :
    ViewsStep Screen.Change d d' ∨ d.Attaches d' := by
  cases h with
  | request hr => exact .inl hr.viewsStep
  | updateTheme id => exact .inl (.kept (d.sameViews_updateTheme env id))
  | prepare editor settings => exact .inl (.kept (d.sameViews_prepare env editor settings))
  | createView hardwareAcceleration => exact .inr (attaches_createView env d hardwareAcceleration)
  | destroyView => exact .inl d.viewsStep_destroyView
  | releaseResources => exact .inl d.viewsStep_releaseResources.change
  | hideWindow => exact .inl (d.viewsStep_map .hideWindow)
  | save => exact .inl (.kept d.sameViews_save)
  | forget => exact .inl (.kept ⟨rfl, rfl⟩)
  | publish settings => exact .inl (.kept ⟨rfl, rfl⟩)
  | setMoreKeys showing => exact .inl (d.viewsStep_setMoreKeys showing).change

end Steps

/-! ### The life of views -/

/-- The attached view has one property, and the record of every view before it another. -/
structure EveryView (P : Screen → Prop) (Q : Record → Prop) (d : Dispatcher) : Prop where
  attached : ∀ s, d.screen = some s → P s
  retired : ∀ r ∈ d.retired, Q r

/-- A property of attached views that a fresh view has and every change keeps, and a property of
records that it turns into when the view is closed. -/
structure LifeCycle (P : Screen → Prop) (Q : Record → Prop) : Prop where
  attach : ∀ view theme hardwareAcceleration listening,
    P (.attach view theme hardwareAcceleration listening)
  change : ∀ s s', P s → s.Change s' → P s'
  close : ∀ s, P s → Q s.close.1
  setMoreKeys : ∀ r showing, Q r → Q (r.setMoreKeys showing)

variable {P : Screen → Prop} {Q : Record → Prop}

theorem EveryView.of_sameViews (h : d.EveryView P Q) (hv : d.SameViews d') : d'.EveryView P Q where
  attached s hs := h.attached s (hv.1 ▸ hs)
  retired r hr := h.retired r (hv.2 ▸ hr)

/-- What the attached view and the records of all others have, every view has. -/
theorem EveryView.views (h : d.EveryView (fun s => Q s.record) Q) : ∀ r ∈ d.views, Q r := by
  intro r hr
  rcases List.mem_append.1 hr with hr | hr
  · exact h.retired r hr
  · obtain ⟨s, hs, rfl⟩ := Option.map_eq_some_iff.1 (Option.mem_toList.1 hr)
    exact h.attached s hs

theorem views_of_screen_eq_none (h : d.screen = none) : d.views = d.retired := by
  rw [views, h]
  exact List.append_nil _

theorem views_of_screen_eq_some {s : Screen} (h : d.screen = some s) :
    d.views = d.retired ++ [s.record] := by
  rw [views, h]
  rfl

/-- The attached view is the last one. -/
theorem getLast?_views {s : Screen} (h : d.screen = some s) : d.views.getLast? = some s.record := by
  rw [views_of_screen_eq_some h, List.getLast?_concat]

/-- No view but the last can be attached. -/
theorem EveryView.of_mem_dropLast (h : d.EveryView P Q) : ∀ r ∈ d.views.dropLast, Q r := by
  intro r hr
  cases hs : d.screen with
  | none =>
    rw [views_of_screen_eq_none hs] at hr
    exact h.retired r (List.dropLast_subset _ hr)
  | some s =>
    rw [views_of_screen_eq_some hs, List.dropLast_concat] at hr
    exact h.retired r hr

/-- While no view is attached, all of them are retired. -/
theorem EveryView.of_screen_eq_none (h : d.EveryView P Q) (hs : d.screen = none) :
    ∀ r ∈ d.views, Q r := by
  rw [views_of_screen_eq_none hs]
  exact h.retired

namespace LifeCycle

/-- Once the attached view is closed, all views have what closed ones have. -/
theorem closedViews (hl : LifeCycle P Q) (h : d.EveryView P Q) : ∀ r ∈ d.closedViews, Q r := by
  intro r hr
  rcases List.mem_append.1 hr with hr | hr
  · exact h.retired r hr
  · obtain ⟨s, hs, rfl⟩ := Option.map_eq_some_iff.1 (Option.mem_toList.1 hr)
    exact hl.close s (h.attached s hs)

theorem everyView_step (hl : LifeCycle P Q) (h : d.EveryView P Q)
    (hv : ViewsStep Screen.Change d d') : d'.EveryView P Q := by
  cases hv with
  | kept same => exact h.of_sameViews same
  | changed before change screen retired =>
    refine ⟨fun s hs => ?_, retired ▸ h.retired⟩
    obtain rfl := Option.some.inj (screen.symm.trans hs)
    exact hl.change _ _ (h.attached _ before) change
  | detached screen retired =>
    exact ⟨fun s hs => (by cases screen.symm.trans hs), retired ▸ hl.closedViews h⟩
  | @touched records r showing before last screen retired =>
    refine ⟨fun s hs => (by cases screen.symm.trans hs), fun r' hr => ?_⟩
    have hall : ∀ r' ∈ records ++ [r], Q r' := last ▸ h.retired
    rw [retired] at hr
    rcases List.mem_append.1 hr with hr | hr
    · exact hall r' (List.mem_append_left _ hr)
    · obtain rfl := List.mem_singleton.1 hr
      exact hl.setMoreKeys r showing (hall r (List.mem_append_right _ (List.mem_singleton_self r)))

theorem everyView_attaches (hl : LifeCycle P Q) (h : d.EveryView P Q) (ha : d.Attaches d') :
    d'.EveryView P Q := by
  obtain ⟨bound, hardwareAcceleration, listening, -, hscreen⟩ := ha.screen
  refine ⟨fun s hs => ?_, ha.retired ▸ hl.closedViews h⟩
  obtain rfl := Option.some.inj (hscreen.symm.trans hs)
  exact hl.attach ..

theorem everyView_request (hl : LifeCycle P Q) (h : d.EveryView P Q) (hr : Request d d') :
    d'.EveryView P Q :=
  hl.everyView_step h hr.viewsStep

/-- **Induction over the life of views**: a move keeps what every view has. -/
theorem everyView_move (hl : LifeCycle P Q) {env : Environment} (h : d.EveryView P Q)
    (hm : Move env d d') : d'.EveryView P Q := by
  rcases hm.viewsStep with hv | ha
  · exact hl.everyView_step h hv
  · exact hl.everyView_attaches h ha

theorem everyView_of_moves (hl : LifeCycle P Q) {env : Environment} (h : d.EveryView P Q)
    (hm : ReflTransGen (Move env) d d') : d'.EveryView P Q := by
  induction hm with
  | refl => exact h
  | tail _ hm ih => exact hl.everyView_move ih hm

end LifeCycle

end Dispatcher

/-! ### Where views come from -/

/-- The number of a view and the name of the theme that it was made for. -/
def Record.origin (r : Record) : Nat × String := (r.view, r.theme)

theorem Record.origin_applyAll (r : Record) (calls : List SinkCall) :
    (r.applyAll calls).origin = r.origin := by
  induction calls generalizing r with
  | nil => rfl
  | cons c calls ih =>
    show ((r.apply c).applyAll calls).origin = _
    rw [ih]
    cases c <;> rfl

theorem Screen.Change.origin_eq {s s' : Screen} (h : s.Change s') :
    s'.record.origin = s.record.origin := by
  cases h with
  | showMain v presentation collapse => exact s.record.origin_applyAll _
  | showEmoji label look icons => exact s.record.origin_applyAll _
  | releaseResources => exact s.record.origin_applyAll _
  | hideWindow => exact s.record.origin_applyAll _
  | setTimer running => rfl
  | setMoreKeys showing => rfl

namespace Dispatcher

variable {d d' : Dispatcher}

/-- The origins of all views, the oldest first. -/
def origins (d : Dispatcher) : List (Nat × String) := d.views.map Record.origin

theorem map_origin_closedViews (d : Dispatcher) :
    d.closedViews.map Record.origin = d.origins := by
  cases hs : d.screen with
  | none =>
    rw [origins, views_of_screen_eq_none hs, closedViews, hs]
    exact congrArg _ (List.append_nil _)
  | some s =>
    have hclose : s.close.1.origin = s.record.origin := s.record.origin_applyAll _
    rw [origins, views_of_screen_eq_some hs, closedViews, hs, List.map_append, List.map_append]
    exact congrArg (fun o => d.retired.map Record.origin ++ [o]) hclose

theorem ViewsStep.origins_eq (h : ViewsStep Screen.Change d d') : d'.origins = d.origins := by
  cases h with
  | kept same => rw [origins, origins, views, views, same.1, same.2]
  | changed before change screen retired =>
    rw [origins, origins, views_of_screen_eq_some screen, views_of_screen_eq_some before, retired,
      List.map_append, List.map_append]
    exact congrArg (fun o => d.retired.map Record.origin ++ [o]) change.origin_eq
  | detached screen retired =>
    rw [origins, views_of_screen_eq_none screen, retired, map_origin_closedViews]
  | touched showing before last screen retired =>
    rw [origins, origins, views_of_screen_eq_none screen, views_of_screen_eq_none before, retired,
      last, List.map_append, List.map_append]
    rfl

/-- **Views are only added**, each with the next number and for the theme that is bound. -/
theorem Attaches.origins (h : d.Attaches d') :
    ∃ bound, d'.theme = some bound ∧ d'.screen.map Screen.view = some (d.views.length + 1) ∧
      d'.origins = d.origins ++ [(d.views.length + 1, bound.theme.name)] := by
  obtain ⟨bound, hardwareAcceleration, listening, htheme, hscreen⟩ := h.screen
  refine ⟨bound, htheme, ?_, ?_⟩
  · rw [hscreen]
    exact congrArg some (Record.view_applyAll _ _)
  · rw [Dispatcher.origins, views_of_screen_eq_some hscreen, h.retired, List.map_append,
      map_origin_closedViews]
    exact congrArg (fun o => d.origins ++ [o]) (Record.origin_applyAll _ _)

theorem length_origins (d : Dispatcher) : d.origins.length = d.views.length :=
  List.length_map ..

theorem length_views_eq (h : d'.origins = d.origins) : d'.views.length = d.views.length := by
  rw [← length_origins, h, length_origins]

theorem Attaches.length_views (h : d.Attaches d') : d'.views.length = d.views.length + 1 := by
  obtain ⟨bound, -, -, ho⟩ := h.origins
  rw [← length_origins, ho, List.length_append, length_origins, List.length_singleton]

/-! ### Numbers -/

/-- The views are numbered from one on, in the order in which they were attached. -/
def Numbered (d : Dispatcher) : Prop := d.views.map Record.view = List.range' 1 d.views.length

theorem numbered_iff : d.Numbered ↔ d.origins.map Prod.fst = List.range' 1 d.origins.length := by
  rw [length_origins, origins, List.map_map]
  rfl

theorem Numbered.step (h : d.Numbered) (hv : ViewsStep Screen.Change d d') : d'.Numbered := by
  rw [numbered_iff] at h ⊢
  rw [hv.origins_eq]
  exact h

theorem Numbered.attaches (h : d.Numbered) (ha : d.Attaches d') : d'.Numbered := by
  obtain ⟨bound, -, -, ho⟩ := ha.origins
  rw [numbered_iff] at h ⊢
  rw [ho, List.map_append, h, List.length_append, ← List.range'_append_1, ← length_origins,
    Nat.add_comm 1]
  rfl

theorem Numbered.move {env : Environment} (h : d.Numbered) (hm : Move env d d') : d'.Numbered := by
  rcases hm.viewsStep with hv | ha
  · exact h.step hv
  · exact h.attaches ha

namespace Numbered

variable (h : d.Numbered)

include h

/-- The attached view has the greatest number. -/
theorem view_eq {s : Screen} (hs : d.screen = some s) : s.view = d.views.length := by
  rw [Numbered, views_of_screen_eq_some hs, List.map_append, List.length_append,
    ← List.range'_append_1] at h
  have hlast := List.append_inj_right' h rfl
  rw [views_of_screen_eq_some hs, List.length_append, Nat.add_comm]
  exact (List.cons.inj hlast).1

theorem view_lt {s : Screen} (hs : d.screen = some s) {r : Record} (hr : r ∈ d.retired) :
    r.view < s.view := by
  have hretired : d.retired.map Record.view = List.range' 1 d.retired.length := by
    rw [Numbered, views_of_screen_eq_some hs, List.map_append, List.length_append,
      ← List.range'_append_1] at h
    exact List.append_inj_left' h rfl
  have hmem : r.view ∈ List.range' 1 d.retired.length := hretired ▸ List.mem_map_of_mem hr
  have hlt := (List.mem_range'_1.1 hmem).2
  rw [h.view_eq hs, views_of_screen_eq_some hs, List.length_append]
  show r.view < d.retired.length + 1
  omega

end Numbered

end Dispatcher

end SoftKeyboard
