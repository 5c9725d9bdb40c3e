import Mathlib.Algebra.Group.Basic
import Mathlib.Algebra.Group.Nat.Defs
import SoftKeyboard.Proofs.Keyboard.Lifecycle

/-!
# Counting selections view by view

A `Tally` is something that can be read off the record of a view, that is the same for all fresh
views and that nothing but the selections on the view adds to: a number, or a list that grows at its
end.  After every run it is what the selections made while the view was attached amount to
(`Tally.count_eq`).

The invariant (`Tally.Balanced`) is carried along the passage of the run through its selections.  It
says besides that no selection was made yet on a view that is still to come, so a fresh view starts
with nothing.
-/

namespace SoftKeyboard

open Relation Dispatcher

namespace Selection

/-- The selection is made while the view of this number is attached. -/
def On (s : Selection) (view : Nat) : Prop := s.finds.screen.map Screen.view = some view

instance (s : Selection) (view : Nat) : Decidable (s.On view) :=
  inferInstanceAs (Decidable (_ = _))

/-- What the selections made while a view was attached amount to. -/
def total {M : Type} [AddMonoid M] (weight : Selection → M) (view : Nat)
    (selections : List Selection) : M :=
  (selections.map fun s => if s.On view then weight s else 0).sum

theorem on_iff {s : Selection} {t : Screen} (h : s.finds.screen = some t) (view : Nat) :
    s.On view ↔ t.view = view := by
  rw [On, h, Option.map_some, Option.some.injEq]

theorem sameHoldings (s : Selection) : s.finds.SameHoldings s.after :=
  s.finds.sameHoldings_select s.layer

theorem length_views_after (s : Selection) : s.after.views.length = s.finds.views.length :=
  length_views_eq (s.finds.origins_select s.layer)

variable {M : Type} [AddMonoid M] {weight : Selection → M} {view : Nat}

theorem total_concat (selections : List Selection) (s : Selection) :
    total weight view (selections ++ [s]) =
      total weight view selections + if s.On view then weight s else 0 := by
  rw [total, List.map_append, List.sum_append, List.map_singleton, List.sum_singleton]
  rfl

theorem total_eq_zero {selections : List Selection} (h : ∀ s ∈ selections, ¬s.On view) :
    total weight view selections = 0 := by
  induction selections with
  | nil => rfl
  | cons s selections ih =>
    obtain ⟨hs, hselections⟩ := List.forall_mem_cons.1 h
    have hrest : total weight view selections = 0 := ih hselections
    rw [total, List.map_cons, List.sum_cons, if_neg hs, zero_add]
    exact hrest

end Selection

namespace Dispatcher

variable {d d' : Dispatcher} {C : Screen → Screen → Prop} {R : Record → Record → Prop}

/-! ### Records before and after a step -/

/-- What becomes of the records of views, apart from what happens to an attached view. -/
structure Carries (R : Record → Record → Prop) : Prop where
  refl : ∀ r, R r r
  close : ∀ s : Screen, R s.record s.close.1
  setMoreKeys : ∀ r showing, R r (r.setMoreKeys showing)

theorem Carries.closedViews (hR : Carries R) : ∀ r ∈ d.closedViews, ∃ r₀ ∈ d.views, R r₀ r := by
  intro r hr
  rcases List.mem_append.1 hr with hr | hr
  · exact ⟨r, List.mem_append_left _ hr, hR.refl r⟩
  · obtain ⟨s, hs, rfl⟩ := Option.map_eq_some_iff.1 (Option.mem_toList.1 hr)
    refine ⟨s.record, ?_, hR.close s⟩
    rw [views_of_screen_eq_some hs]
    exact List.mem_append_right _ (List.mem_singleton_self _)

/-- Every record after a step that adds no view comes from one before. -/
theorem Carries.step (hR : Carries R) (hC : ∀ s s', C s s' → R s.record s'.record)
    (h : ViewsStep C d d') : ∀ r ∈ d'.views, ∃ r₀ ∈ d.views, R r₀ r := by
  intro r hr
  cases h with
  | kept same =>
    rw [views, same.1, same.2] at hr
    exact ⟨r, hr, hR.refl r⟩
  | @changed s s' before change screen retired =>
    rw [views_of_screen_eq_some screen, retired] at hr
    rw [views_of_screen_eq_some before]
    rcases List.mem_append.1 hr with hr | hr
    · exact ⟨r, List.mem_append_left _ hr, hR.refl r⟩
    · obtain rfl := List.mem_singleton.1 hr
      exact ⟨s.record, List.mem_append_right _ (List.mem_singleton_self _), hC s s' change⟩
  | detached screen retired =>
    rw [views_of_screen_eq_none screen, retired] at hr
    exact hR.closedViews r hr
  | @touched records r' showing before last screen retired =>
    rw [views_of_screen_eq_none screen, retired] at hr
    rw [views_of_screen_eq_none before, last]
    rcases List.mem_append.1 hr with hr | hr
    · exact ⟨r, List.mem_append_left _ hr, hR.refl r⟩
    · obtain rfl := List.mem_singleton.1 hr
      exact ⟨r', List.mem_append_right _ (List.mem_singleton_self _), hR.setMoreKeys r' showing⟩

end Dispatcher

/-! ### Tallies -/

/-- What can be read off the record of a view: `first` for a fresh view, and added to by the
selections on the view alone, by each as much as its weight. -/
structure Tally {M : Type} [AddMonoid M] (count : Record → M) (first : M)
    (weight : Selection → M) : Prop where
  attach : ∀ view theme hardwareAcceleration listening,
    count (Screen.attach view theme hardwareAcceleration listening).record = first
  upkeep : ∀ {s s' : Screen}, s.Upkeep s' → count s'.record = count s.record
  close : ∀ s : Screen, count s.close.1 = count s.record
  setMoreKeys : ∀ (r : Record) showing, count (r.setMoreKeys showing) = count r
  select : ∀ (s : Selection) {t t' : Screen}, s.finds.screen = some t → s.after.screen = some t' →
    count t'.record = count t.record + weight s

namespace Tally

variable {M : Type} [AddMonoid M] {count : Record → M} {first : M} {weight : Selection → M}
  {d d' : Dispatcher} {selections : List Selection}

/-- The count of every view is what the selections so far amount to, and none of them was made on a
view that is still to come. -/
structure Balanced (count : Record → M) (first : M) (weight : Selection → M) (d : Dispatcher)
    (selections : List Selection) : Prop where
  numbered : d.Numbered
  early : ∀ s ∈ selections, ∀ view, s.On view → view ≤ d.views.length
  balance : ∀ r ∈ d.views, count r = first + Selection.total weight r.view selections

/-- A selection without a view counts for none. -/
theorem Balanced.select_of_detached {s : Selection}
    (h : Balanced count first weight s.finds selections) (hscreen : s.finds.screen = none) :
    Balanced count first weight s.after (selections ++ [s]) := by
  have hon : ∀ view, ¬s.On view := by
    intro view hon
    rw [Selection.On, hscreen] at hon
    cases hon
  have hscreen' : s.after.screen = none := s.sameHoldings.screen_eq_none_iff.2 hscreen
  refine ⟨h.numbered.step (s.finds.viewsStep_select s.layer), fun u hu view hv => ?_,
    fun r hr => ?_⟩
  · rw [s.length_views_after]
    rcases List.mem_append.1 hu with hu | hu
    · exact h.early u hu view hv
    · exact absurd (List.mem_singleton.1 hu ▸ hv) (hon view)
  · rw [views_of_screen_eq_none hscreen', s.sameHoldings.retired,
      ← views_of_screen_eq_none hscreen] at hr
    rw [Selection.total_concat, if_neg (hon r.view), add_zero]
    exact h.balance r hr

variable (ht : Tally count first weight)

include ht

theorem carries : Carries fun r r' => r'.view = r.view ∧ count r' = count r where
  refl _ := ⟨rfl, rfl⟩
  close s := ⟨s.record.view_applyAll _, ht.close s⟩
  setMoreKeys r showing := ⟨rfl, ht.setMoreKeys r showing⟩

/-- A step that adds no view and shows nothing changes no count. -/
theorem balanced_upkeep (h : Balanced count first weight d selections)
    (hv : ViewsStep Screen.Upkeep d d') : Balanced count first weight d' selections := by
  have hlength := length_views_eq hv.change.origins_eq
  refine ⟨h.numbered.step hv.change, fun s hs view hon => hlength ▸ h.early s hs view hon,
    fun r hr => ?_⟩
  have hupkeep : ∀ s s' : Screen, s.Upkeep s' →
      s'.record.view = s.record.view ∧ count s'.record = count s.record :=
    fun _ _ hu => ⟨hu.change.view_eq, ht.upkeep hu⟩
  obtain ⟨r₀, hr₀, hview, hcount⟩ := ht.carries.step hupkeep hv r hr
  rw [hcount, hview]
  exact h.balance r₀ hr₀

/-- A fresh view has a number that no selection was made on. -/
theorem balanced_attaches (h : Balanced count first weight d selections) (ha : d.Attaches d') :
    Balanced count first weight d' selections := by
  refine ⟨h.numbered.attaches ha, fun s hs view hon => ?_, fun r hr => ?_⟩
  · have hle := h.early s hs view hon
    have hlength := ha.length_views
    omega
  · obtain ⟨bound, hardwareAcceleration, listening, -, hscreen⟩ := ha.screen
    rw [views_of_screen_eq_some hscreen, ha.retired] at hr
    rcases List.mem_append.1 hr with hr | hr
    · obtain ⟨r₀, hr₀, hview, hcount⟩ := ht.carries.closedViews r hr
      rw [hcount, hview]
      exact h.balance r₀ hr₀
    · obtain rfl := List.mem_singleton.1 hr
      have hview : (Screen.attach (d.views.length + 1) bound.theme.name hardwareAcceleration
          listening).record.view = d.views.length + 1 :=
        Record.view_applyAll ..
      rw [ht.attach, hview, Selection.total_eq_zero, add_zero]
      intro s hs hon
      have hle := h.early s hs _ hon
      omega

/-- A step that shows nothing on any view keeps the balance. -/
theorem balanced_quiet (h : Balanced count first weight d selections) (hq : d.Quiet d') :
    Balanced count first weight d' selections := by
  rcases hq with hv | ha
  · exact ht.balanced_upkeep h hv
  · exact ht.balanced_attaches h ha

theorem balanced_quiets (h : Balanced count first weight d selections)
    (hq : ReflTransGen Quiet d d') : Balanced count first weight d' selections := by
  induction hq with
  | refl => exact h
  | tail _ hq ih => exact ht.balanced_quiet ih hq

/-- **A selection adds its weight** to the count of the view that is attached. -/
theorem balanced_select {s : Selection} (h : Balanced count first weight s.finds selections) :
    Balanced count first weight s.after (selections ++ [s]) := by
  cases hscreen : s.finds.screen with
  | none => exact h.select_of_detached hscreen
  | some t =>
    have hattached : s.after.screen ≠ none := by
      rw [Ne, s.sameHoldings.screen_eq_none_iff, hscreen]
      exact Option.some_ne_none t
    obtain ⟨t', hscreen'⟩ := Option.ne_none_iff_exists'.1 hattached
    have hview : t'.view = t.view := by
      have hmap := s.sameHoldings.view
      rw [hscreen, hscreen'] at hmap
      exact Option.some.inj hmap
    refine ⟨h.numbered.step (s.finds.viewsStep_select s.layer), fun u hu view hv => ?_,
      fun r hr => ?_⟩
    · rw [s.length_views_after]
      rcases List.mem_append.1 hu with hu | hu
      · exact h.early u hu view hv
      · obtain rfl := (Selection.on_iff hscreen view).1 (List.mem_singleton.1 hu ▸ hv)
        exact Nat.le_of_eq (h.numbered.view_eq hscreen)
    · have hon := Selection.on_iff hscreen r.view
      rw [Selection.total_concat]
      rw [views_of_screen_eq_some hscreen', s.sameHoldings.retired] at hr
      rcases List.mem_append.1 hr with hr | hr
      · -- the views before the attached one have smaller numbers
        have hlt := h.numbered.view_lt hscreen hr
        rw [if_neg fun hv => Nat.ne_of_gt hlt (hon.1 hv), add_zero]
        exact h.balance r (List.mem_append_left _ hr)
      · obtain rfl := List.mem_singleton.1 hr
        have hmem : t.record ∈ s.finds.views := by
          rw [views_of_screen_eq_some hscreen]
          exact List.mem_append_right _ (List.mem_singleton_self _)
        replace hview : t'.record.view = t.record.view := hview
        rw [if_pos (hon.2 hview.symm), ht.select s hscreen hscreen', h.balance _ hmem, hview,
          add_assoc]

/-- Along the passage through selections the balance is kept. -/
theorem balanced_passes {more : List Selection} (hp : Passes Quiet d more d')
    (h : Balanced count first weight d selections) :
    Balanced count first weight d' (selections ++ more) := by
  induction hp generalizing selections with
  | rest hq =>
    rw [List.append_nil]
    exact ht.balanced_quiets h hq
  | select s hq _ ih =>
    have hselect := ih (ht.balanced_select (ht.balanced_quiets h hq))
    rwa [List.append_assoc, List.singleton_append] at hselect

/-- **A tally counts selections**: after every run the count of a view is what the selections made
while it was attached amount to. -/
theorem count_eq {σ : Type} (a : Assembly σ) (live : Settings) (position : σ)
    (operations : List Operation) :
    ∀ r ∈ ((Keyboard.start live position).performAll a operations).dispatcher.views,
      count r = first + Selection.total weight r.view
        (Keyboard.selectionsAll a (Keyboard.start live position) operations) := by
  have hstart : Balanced count first weight (Keyboard.start live position).dispatcher [] :=
    ⟨rfl, fun s hs => (by cases hs), fun r hr => (by cases hr)⟩
  exact (ht.balanced_passes (Keyboard.performAll_passes a _ operations) hstart).balance

end Tally

end SoftKeyboard
