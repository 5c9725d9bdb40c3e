import SoftKeyboard.Proofs.Keyboard.Availability
import SoftKeyboard.Proofs.Keyboard.Tally
import SoftKeyboard.Proofs.Surface.Economy

/-!
# Sinks are told only what changes

* How often the visible surface of a view is exchanged can be watched from outside
  (`Keyboard.sights`, `Dispatcher.flipCount`).  Only selections exchange it
  (`Dispatcher.not_flips_of_quiet`), so the count is a tally of selections
  (`Dispatcher.two_mul_flipCount`), and so are the calls that show or hide a surface
  (`Keyboard.tally_visibilityChanges`).
* A layer rests on the screen (`Dispatcher.Rests`) from when it is selected until something else
  than an aside happens.  To select it once more takes one call, the presentation, or none if it is
  emoji (`Dispatcher.Rests.select`).

`Keyboard.terse_of_performAll` puts them together with the invariant of
`SoftKeyboard.Proofs.Surface.Economy`.
-/

namespace SoftKeyboard

open Relation

namespace Dispatcher

variable {d d' : Dispatcher} {view : Nat}

/-! ### Exchanges of the visible surface -/

/-- The visible surface of a view that is attached before and after is another one afterwards. -/
def Flips (view : Nat) (d d' : Dispatcher) : Prop :=
  d.screen.map Screen.view = some view ∧ d'.screen.map Screen.view = some view ∧
    d'.visible? ≠ d.visible?

instance (view : Nat) (d d' : Dispatcher) : Decidable (d.Flips view d') :=
  inferInstanceAs (Decidable (_ ∧ _ ∧ _))

/-- How often the visible surface of a view is exchanged from one moment to the next. -/
def flipCount (view : Nat) : List Dispatcher → Nat
  | d :: d' :: ds => (if d.Flips view d' then 1 else 0) + flipCount view (d' :: ds)
  | _ => 0

theorem flipCount_append (view : Nat) (before : List Dispatcher) (d : Dispatcher)
    (after : List Dispatcher) :
    flipCount view (before ++ d :: after) =
      flipCount view (before ++ [d]) + flipCount view (d :: after) := by
  induction before with
  | nil => exact (Nat.zero_add _).symm
  | cons d₁ before ih =>
    cases before with
    | nil => rfl
    | cons d₂ before =>
      show (if d₁.Flips view d₂ then 1 else 0) + flipCount view (d₂ :: before ++ d :: after) =
        (if d₁.Flips view d₂ then 1 else 0) + flipCount view (d₂ :: before ++ [d]) +
          flipCount view (d :: after)
      rw [ih, Nat.add_assoc]

/-- A step that adds no view and shows nothing leaves the visible surface alone, or takes the view
away. -/
theorem ViewsStep.sight (h : ViewsStep Screen.Upkeep d d') :
    d'.screen = none ∨
      d'.screen.map Screen.view = d.screen.map Screen.view ∧ d'.visible? = d.visible? := by
  cases h with
  | kept same =>
    right
    rw [visible?, visible?, same.1]
    exact ⟨rfl, rfl⟩
  | changed before change screen retired =>
    right
    rw [visible?, visible?, before, screen]
    exact ⟨congrArg some change.change.view_eq, congrArg some change.visible_eq⟩
  | detached screen retired => exact .inl screen
  | touched showing before last screen retired => exact .inl screen

/-- A view that is there already is not attached a second time, so as long as nothing is selected it
shows the surface that it showed. -/
theorem visible_eq_of_quiet (hview : view ≤ d.views.length) (h : ReflTransGen Quiet d d') :
    view ≤ d'.views.length ∧
      (d'.screen.map Screen.view = some view → d'.visible? = d.visible?) := by
  induction h with
  | refl => exact ⟨hview, fun _ => rfl⟩
  | @tail d₁ d₂ _ hq ih =>
    obtain ⟨hle, hsame⟩ := ih
    rcases hq with hv | ha
    · have hlength := length_views_eq hv.change.origins_eq
      refine ⟨hlength ▸ hle, fun hon => ?_⟩
      rcases hv.sight with hnone | ⟨hkept, hvisible⟩
      · rw [hnone] at hon
        cases hon
      · exact hvisible.trans (hsame (hkept.symm.trans hon))
    · -- the fresh view has a greater number
      obtain ⟨bound, -, hnext, -⟩ := ha.origins
      have hlength := ha.length_views
      refine ⟨by omega, fun hon => ?_⟩
      have hfresh := Option.some.inj (hnext.symm.trans hon)
      omega

/-- **Only selections exchange the visible surface.** -/
theorem not_flips_of_quiet (hn : d.Numbered) (h : ReflTransGen Quiet d d') :
    ¬d.Flips view d' := by
  rintro ⟨hon, hon', hflip⟩
  obtain ⟨s, hs, rfl⟩ := Option.map_eq_some_iff.1 hon
  exact hflip ((visible_eq_of_quiet (Nat.le_of_eq (hn.view_eq hs)) h).2 hon')

end Dispatcher

open Dispatcher

namespace Selection

/-- The calls that a selection takes to exchange the visible surface. -/
def flipWeight (s : Selection) : Nat := if s.after.visible? = s.finds.visible? then 0 else 2

/-- Before and after each of some selections. -/
def sights (selections : List Selection) : List Dispatcher :=
  selections.flatMap fun s => [s.finds, s.after]

theorem two_mul_flips (s : Selection) (view : Nat) :
    2 * (if s.finds.Flips view s.after then 1 else 0) = if s.On view then s.flipWeight else 0 := by
  have hon : s.after.screen.map Screen.view = some view ↔ s.On view := by
    rw [s.sameHoldings.view]
    rfl
  have hflips : s.finds.Flips view s.after ↔
      s.On view ∧ s.after.visible? ≠ s.finds.visible? :=
    ⟨fun h => ⟨h.1, h.2.2⟩, fun h => ⟨h.1, hon.2 h.1, h.2⟩⟩
  unfold flipWeight
  by_cases h : s.On view
  · rw [if_pos h]
    by_cases hv : s.after.visible? = s.finds.visible?
    · rw [if_neg fun hf => (hflips.1 hf).2 hv, if_pos hv]
    · rw [if_pos (hflips.2 ⟨h, hv⟩), if_neg hv]
  · rw [if_neg fun hf => h (hflips.1 hf).1, if_neg h]

end Selection

namespace Dispatcher

variable {d d' : Dispatcher} {selections : List Selection}

/-- How often the visible surface of a view is exchanged is a matter of the selections that are
passed through. -/
theorem two_mul_flipCount (view : Nat) (hp : Passes Quiet d selections d') (hn : d.Numbered) :
    2 * flipCount view (d :: (Selection.sights selections ++ [d'])) =
      Selection.total Selection.flipWeight view selections := by
  induction hp with
  | @rest d d' h =>
    show 2 * ((if d.Flips view d' then 1 else 0) + 0) = 0
    rw [if_neg (not_flips_of_quiet hn h), Nat.add_zero, Nat.mul_zero]
  | @select d d' selections s h _ ih =>
    have hrest := ih ((hn.quiets h).step (s.finds.viewsStep_select s.layer))
    have hflips := s.two_mul_flips view
    show 2 * ((if d.Flips view s.finds then 1 else 0) +
      ((if s.finds.Flips view s.after then 1 else 0) +
        flipCount view (s.after :: (Selection.sights selections ++ [d'])))) =
      (if s.On view then s.flipWeight else 0) +
        Selection.total Selection.flipWeight view selections
    rw [if_neg (not_flips_of_quiet hn h), Nat.zero_add, Nat.mul_add, hrest, hflips]

/-! ### Layers that rest on the screen -/

/-- The layer of the layout is on the screen: to show it again, nothing is to be told but the
presentation, and not even that if it is emoji. -/
def Rests (layout : Layout) (layer : Layer) (d : Dispatcher) : Prop :=
  d.layout = some layout ∧ ∃ t, d.screen = some t ∧
    if layer = .emoji then t.presenter.showsEmoji = true
    else t.presenter.Shows (layout.get layer) d.live.hardwareKeyboard

/-- What was selected rests on the screen. -/
theorem rests_after {s : Selection} (hok : s.outcome = .ok ()) :
    ∃ layout, s.after.Rests layout s.layer := by
  obtain ⟨hl, hs⟩ := (s.finds.select_eq_ok_iff s.layer).1 hok
  obtain ⟨layout, hl⟩ := Option.ne_none_iff_exists'.1 hl
  obtain ⟨t, hs⟩ := Option.ne_none_iff_exists'.1 hs
  have hafter : s.after = s.finds.selectOn layout t s.layer := by
    rw [Selection.after, select_of_eq_some s.layer hl hs]
  refine ⟨layout, s.sameHoldings.layout.trans hl, ?_⟩
  rw [s.sameHoldings.live, hafter]
  unfold selectOn
  by_cases he : s.layer = .emoji
  · simp only [if_pos he]
    exact ⟨_, rfl, t.presenter.showsEmoji_showEmoji ..⟩
  · simp only [if_neg he]
    exact ⟨_, rfl, t.presenter.shows_showMain (layout.get s.layer)
      (.derive s.finds.live (layout.get s.layer) t.presenter.variant) s.finds.live.hardwareKeyboard⟩

variable {layout : Layout} {layer : Layer}

/-- Asides leave it there. -/
theorem Rests.aside (h : d.Rests layout layer) (ha : Aside d d') : d'.Rests layout layer := by
  obtain ⟨hl, t, ht, hshows⟩ := h
  cases ha with
  | setTimer running => exact ⟨hl, t.setTimer running, congrArg (Option.map _) ht, hshows⟩
  | queue pending => exact ⟨hl, t, ht, hshows⟩
  | forget => exact ⟨hl, t, ht, hshows⟩
  | note notices => exact ⟨hl, t, ht, hshows⟩

theorem Rests.asides (h : d.Rests layout layer) (ha : ReflTransGen Aside d d') :
    d'.Rests layout layer := by
  induction ha with
  | refl => exact h
  | tail _ ha ih => exact ih.aside ha

/-- **To select once more what rests on the screen** takes the presentation, or nothing if it is
emoji. -/
theorem Rests.select (h : d.Rests layout layer) :
    (d.select layer).1 = .ok () ∧
      (layer = .emoji → ∃ notices, (d.select layer).2 = { d with notices }) ∧
      (layer ≠ .emoji → ∃ t p notices, d.screen = some t ∧
        (d.select layer).2 =
          { d with
            screen := some
              { t with
                record :=
                  { t.record with
                    presentation := some p
                    presented := t.record.presented + 1
                    calls := t.record.calls ++ [.present p] } }
            notices }) := by
  obtain ⟨hl, t, ht, hshows⟩ := h
  rw [select_of_eq_some layer hl ht]
  refine ⟨rfl, fun he => ?_, fun he => ?_⟩
  · have hpanel : t.presenter.showsEmoji = true := by rwa [if_pos he] at hshows
    have hd : ({ d with screen := some (t.tell t.presenter []) } : Dispatcher) = d := by
      show ({ d with screen := some t } : Dispatcher) = d
      rw [← ht]
    show ∃ notices, d.selectOn layout t layer = { d with notices }
    unfold selectOn Screen.showEmoji
    rw [if_pos he]
    simp only [Presenter.showEmoji_of_showsEmoji hpanel, hd]
    exact ⟨_, rfl⟩
  · have hvariant : t.presenter.Shows (layout.get layer) d.live.hardwareKeyboard := by
      rwa [if_neg he] at hshows
    refine ⟨t, .derive d.live (layout.get layer) t.presenter.variant, ?_⟩
    show ∃ notices, d.screen = some t ∧ d.selectOn layout t layer = _
    unfold selectOn Screen.showMain
    rw [if_neg he]
    simp only [hvariant (.derive d.live (layout.get layer) t.presenter.variant)]
    exact ⟨_, ht, rfl⟩

end Dispatcher

/-- A view stays terse as long as it lives. -/
theorem lifeCycle_terse : LifeCycle (fun s => s.record.TerseFor s.presenter) Record.Terse where
  attach _ _ _ _ := Screen.terseFor_attach ..
  change _ _ h hc := Screen.terseFor_change h hc
  close _ h := Screen.terse_close h
  setMoreKeys _ _ h := ⟨h.frame, h.main, h.emoji, h.running, h.padding, h.drawn⟩

namespace Keyboard

variable {σ : Type}

/-- The calls that show or hide a surface of a view: two for a fresh view, and two for each
selection that exchanges the surfaces. -/
theorem tally_visibilityChanges : Tally Record.visibilityChanges 2 Selection.flipWeight where
  attach := Screen.visibilityChanges_attach
  upkeep hu := by rw [Screen.visibilityChanges_change hu.change, if_pos hu.visible_eq, Nat.add_zero]
  close := Screen.visibilityChanges_close
  setMoreKeys _ _ := rfl
  select s t t' ht ht' := by
    have hweight : s.flipWeight =
        if t'.presenter.visible = t.presenter.visible then 0 else 2 := by
      simp only [Selection.flipWeight, visible?, ht, ht', Option.map_some, Option.some.injEq]
    rw [hweight]
    have hv : ViewsStep Screen.Change s.finds s.after := s.finds.viewsStep_select s.layer
    cases hv with
    | kept same =>
      obtain rfl := Option.some.inj (ht'.symm.trans (same.1.trans ht))
      rw [if_pos rfl, Nat.add_zero]
    | changed before change screen retired =>
      obtain rfl := Option.some.inj (before.symm.trans ht)
      obtain rfl := Option.some.inj (screen.symm.trans ht')
      exact Screen.visibilityChanges_change change
    | detached screen retired => cases screen.symm.trans ht'
    | touched showing before last screen retired => cases screen.symm.trans ht'

/-! ### Watching a run -/

/-- What can be watched of a run: the moments before and after each operation, and before and after
each selection that an operation makes. -/
def sights (a : Assembly σ) : Keyboard σ → List Operation → List Dispatcher
  | k, [] => [k.dispatcher]
  | k, operation :: operations =>
    k.dispatcher :: (Selection.sights (selections a k operation) ++
      sights a (k.perform a operation).2 operations)

theorem exists_sights_eq_cons (a : Assembly σ) (k : Keyboard σ) (operations : List Operation) :
    ∃ rest, sights a k operations = k.dispatcher :: rest := by
  cases operations with
  | nil => exact ⟨[], rfl⟩
  | cons operation operations => exact ⟨_, rfl⟩

theorem two_mul_flipCount_sights (a : Assembly σ) {k : Keyboard σ} (hk : k.dispatcher.Numbered)
    (view : Nat) (operations : List Operation) :
    2 * flipCount view (sights a k operations) =
      Selection.total Selection.flipWeight view (selectionsAll a k operations) := by
  induction operations generalizing k with
  | nil => rfl
  | cons operation operations ih =>
    have hnext : (k.perform a operation).2.dispatcher.Numbered :=
      of_moves Numbered.move hk (perform_moves a k operation)
    have hrest := ih hnext
    have hfirst := two_mul_flipCount view (performAll_passes a k [operation]) hk
    obtain ⟨rest, hsights⟩ := exists_sights_eq_cons a (k.perform a operation).2 operations
    have hselections : selectionsAll a k [operation] = selections a k operation :=
      List.append_nil _
    rw [hselections] at hfirst
    -- the moments of the operation, and those of the operations after it
    have hsplit := flipCount_append view
      (k.dispatcher :: Selection.sights (selections a k operation))
      (k.perform a operation).2.dispatcher rest
    rw [hsights] at hrest
    rw [sights, hsights, selectionsAll, Selection.total, List.map_append, List.sum_append]
    show 2 * flipCount view _ = Selection.total _ _ _ + Selection.total _ _ _
    rw [← hfirst, ← hrest, ← Nat.mul_add]
    exact congrArg (2 * ·) hsplit

/-! ### All runs -/

/-- **Sinks are told only what changes.**  After every run:

* the calls to every view, attached or not, are terse, and those that show or hide a surface are two
  and two more for each time that the visible surface was exchanged while the view was attached;
* if the last selection of an operation succeeds, then the host may select its layer once more,
  which succeeds and adds one call, the presentation, or none if the layer is emoji.  Nothing else
  changes, neither on the view nor anywhere, but the reports. -/
theorem terse_of_performAll (a : Assembly σ) (live : Settings) (position : σ)
    (operations : List Operation) :
    let k₀ := start live position
    let k := k₀.performAll a operations
    (∀ r ∈ k.dispatcher.views, r.Terse ∧
      r.visibilityChanges = 2 + 2 * flipCount r.view (sights a k₀ operations)) ∧
    ∀ operation s, (selections a k operation).getLast? = some s → s.outcome = .ok () →
      let k₁ := (k.perform a operation).2
      let r := k₁.perform a (.select s.layer)
      r.1 = .outcome (.ok ()) ∧
        (s.layer = .emoji → ∃ notices, r.2 = k₁.withDispatcher { k₁.dispatcher with notices }) ∧
        (s.layer ≠ .emoji → ∃ t p notices, k₁.dispatcher.screen = some t ∧
          r.2 = k₁.withDispatcher
            { k₁.dispatcher with
              screen := some
                { t with
                  record :=
                    { t.record with
                      presentation := some p
                      presented := t.record.presented + 1
                      calls := t.record.calls ++ [.present p] } }
              notices }) := by
  intro k₀ k
  constructor
  · intro r hr
    have hviews : k.dispatcher.EveryView _ _ :=
      everyView_performAll lifeCycle_terse a live position operations
    have hterse : k.dispatcher.EveryView (fun s => s.record.Terse) Record.Terse :=
      ⟨fun s hs => (hviews.attached s hs).terse, hviews.retired⟩
    refine ⟨hterse.views r hr, ?_⟩
    rw [two_mul_flipCount_sights a (k := k₀) rfl]
    exact tally_visibilityChanges.count_eq a live position operations r hr
  · intro operation s hs hok k₁ r
    obtain ⟨layout, hrests⟩ := rests_after hok
    -- nothing but asides comes after the last selection of the operation
    have hrests₁ : k₁.dispatcher.Rests layout s.layer :=
      hrests.asides ((perform_passes a k operation).last hs)
    obtain ⟨hselect, hemoji, hmain⟩ := hrests₁.select
    refine ⟨congrArg Reply.outcome hselect, fun he => ?_, fun he => ?_⟩
    · obtain ⟨notices, h⟩ := hemoji he
      exact ⟨notices, congrArg k₁.withDispatcher h⟩
    · obtain ⟨t, p, notices, ht, h⟩ := hmain he
      exact ⟨t, p, notices, ht, congrArg k₁.withDispatcher h⟩

/-- The emoji panel is toggled on and off again: the view was told six times to show or hide a
surface.  Symbols that are selected twice in a row take one call the second time. -/
theorem terse_of_toggled_twice :
    let a : Assembly Layer := ⟨.unsplit, .basic⟩
    let operations : List Operation :=
      [.command (.createView false), .command (.load {} {}), .command (.toggleEmoji {}),
        .command (.toggleEmoji {})]
    let k := (start {} .alphabet).performAll a operations
    let k₁ := (k.perform a (.select .symbols)).2
    (∃ r ∈ k.dispatcher.views, r.view = 1 ∧ r.Terse ∧ r.visibilityChanges = 2 + 2 * 2) ∧
      ∃ t p, k₁.dispatcher.screen = some t ∧
        (k₁.perform a (.select .symbols)).2.dispatcher.screen.map (fun t => t.record.calls) =
          some (t.record.calls ++ [.present p]) := by
  intro a operations k k₁
  have hflips : flipCount 1 (sights a (start {} .alphabet) operations) = 2 := by decide +kernel
  have hok : (Selection.mk k.dispatcher .symbols).outcome = .ok () := rfl
  obtain ⟨r, hr, hview⟩ : ∃ r ∈ k.dispatcher.views, r.view = 1 := by decide +kernel
  obtain ⟨hterse, hagain⟩ := terse_of_performAll a {} .alphabet operations
  constructor
  · have h := hterse r hr
    rw [hview, hflips] at h
    exact ⟨r, hr, hview, h⟩
  · obtain ⟨-, -, hmain⟩ := hagain (.select .symbols) ⟨k.dispatcher, .symbols⟩ rfl hok
    obtain ⟨t, p, notices, ht, h⟩ := hmain (by decide)
    refine ⟨t, p, ht, ?_⟩
    have hscreen := congrArg (fun k => k.dispatcher.screen.map fun t => t.record.calls) h
    exact hscreen

end Keyboard

end SoftKeyboard
