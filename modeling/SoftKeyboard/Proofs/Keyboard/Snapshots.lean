import SoftKeyboard.Layout.Bundled
import SoftKeyboard.Proofs.Keyboard.Determination
import SoftKeyboard.Proofs.Keyboard.Passage

/-!
# Snapshots are consistent

A snapshot puts together what a keyboard answers to seven questions, which it reads off the layout,
the attached view and the presenter each in its own way.  That the answers fit together rests on two
invariants of the presenter.

* The variant that it remembers fits the layout (`Dispatcher.Genuine`), so a variant that is
  reported is the layout's own, and never the emoji panel's.
* The padding that it remembers is that of the variant (`Dispatcher.Padded`).  Every selection sends
  the padding of what it shows, but where the variant is on the main surface already the presenter
  keeps the one that it has.  These agree because a genuine variant that cannot be told from one of
  the layout is that one.

`Keyboard.snapshot_consistent` puts them together.
-/

namespace SoftKeyboard

open Relation

/-! ### The padding of the variant on the main surface -/

/-- The padding that was sent last is that of the variant on the main surface. -/
def Screen.Padded (s : Screen) : Prop :=
  ∀ w, s.presenter.variant = some w → s.presenter.topPadding = some w.topPadding

namespace Screen

variable {s s' : Screen}

theorem Upkeep.padded (h : s.Padded) (hu : s.Upkeep s') : s'.Padded := by
  cases hu <;> exact h

theorem padded_attach (view : Nat) (theme : String) (hardwareAcceleration listening : Bool) :
    (attach view theme hardwareAcceleration listening).Padded :=
  fun _ h => nomatch h

theorem Padded.showEmoji (h : s.Padded) (label : String) (look : Look) (icons : IconSet) :
    (s.showEmoji label look icons).1.Padded := by
  intro w hw
  replace hw : (s.presenter.showEmoji label look icons).1.variant = some w := hw
  show (s.presenter.showEmoji label look icons).1.topPadding = some w.topPadding
  rw [Presenter.variant_showEmoji] at hw
  rw [Presenter.topPadding_showEmoji]
  exact h w hw

/-- A variant that cannot be told from the one shown has to be that one. -/
theorem padded_showMain {v : Variant}
    (hv : ∀ w, s.presenter.variant = some w → w.isSame v = true → w = v)
    (presentation : Presentation) (collapse : Bool) :
    (s.showMain v presentation collapse).1.Padded := by
  intro w hw
  replace hw : (if s.presenter.draws v then s.presenter.variant else some v) = some w := hw
  show some v.topPadding = some w.topPadding
  by_cases hd : s.presenter.draws v = true
  · rw [if_pos hd] at hw
    unfold Presenter.draws at hd
    rw [hw] at hd
    rw [hv w hw hd]
  · rw [if_neg hd] at hw
    obtain rfl := Option.some.inj hw
    rfl

end Screen

namespace Dispatcher

variable {env : Environment} {d d' : Dispatcher} {layout : Layout} {layer : Layer} {v : Variant}

/-! ### Variants of the layout -/

/-- A variant that is reported is on the main surface of the attached view, and is the layout's own
for a layer of that surface. -/
theorem Genuine.exists_of_currentVariant? (h : d.Genuine env) (hv : d.currentVariant? = some v) :
    ∃ layout s, d.layout = some layout ∧ d.screen = some s ∧ s.presenter.variant = some v ∧
      layout.get v.layer = v ∧ v.layer ≠ .emoji := by
  obtain ⟨layout, hl, hdrawn, hcontains⟩ := currentVariant?_eq_some hv
  obtain ⟨s, hs, hvariant⟩ := Option.bind_eq_some_iff.1 hdrawn
  have hfits := h.fits v hdrawn
  rw [layout.contains_eq] at hcontains
  exact ⟨layout, s, hl, hs, hvariant, hfits.own layout hl (eq_of_beq hcontains), hfits.main⟩

/-- A layer of the main surface is on the screen if the main surface is visible and a variant of
that layer is reported. -/
theorem currentLayer?_eq_some_iff (h : d.Genuine env) :
    d.currentLayer? = some layer ↔
      d.visible? = some .emoji ∧ layer = .emoji ∨
        d.visible? = some .main ∧ ∃ v, d.currentVariant? = some v ∧ v.layer = layer := by
  by_cases he : d.visible? = some .emoji
  · rw [currentLayer?_of_visible_eq_emoji he, he]
    simp [eq_comm]
  · have hlayer : d.currentLayer? = d.currentVariant?.map fun v => v.layer := by
      unfold currentLayer? showsEmoji
      rw [if_neg fun h => he (of_decide_eq_true h)]
    rw [hlayer, Option.map_eq_some_iff]
    constructor
    · rintro ⟨v, hv, hlayer⟩
      refine .inr ⟨?_, v, hv, hlayer⟩
      -- there is a view, and it does not show the panel
      obtain ⟨layout, s, -, hs, -⟩ := h.exists_of_currentVariant? hv
      have hvisible : d.visible? = some s.presenter.visible := by rw [visible?, hs, Option.map_some]
      rw [hvisible] at he ⊢
      cases hp : s.presenter.visible with
      | main => rfl
      | emoji => exact absurd (congrArg some hp) he
    · rintro (⟨h, -⟩ | ⟨-, hv⟩)
      · exact absurd h he
      · exact hv

/-! ### The padding in a move -/

/-- The padding that was sent last to the attached view is that of the variant on its main
surface. -/
def Padded (d : Dispatcher) : Prop := ∀ s, d.screen = some s → s.Padded

theorem Padded.quiet (h : d.Padded) (hq : d.Quiet d') : d'.Padded := by
  intro s' hs'
  rcases hq with hv | ha
  · cases hv with
    | kept same => exact h s' (same.1 ▸ hs')
    | changed before change screen retired =>
      obtain rfl := Option.some.inj (screen.symm.trans hs')
      exact change.padded (h _ before)
    | detached screen retired => cases screen.symm.trans hs'
    | touched showing before last screen retired => cases screen.symm.trans hs'
  · obtain ⟨bound, hardwareAcceleration, listening, -, hscreen⟩ := ha.screen
    obtain rfl := Option.some.inj (hscreen.symm.trans hs')
    exact Screen.padded_attach _ _ _ _

theorem Padded.select (h : d.Padded) (hg : d.Genuine env) (layer : Layer) :
    (d.select layer).2.Padded := by
  cases hl : d.layout with
  | none =>
    rw [select_of_layout_eq_none layer hl]
    exact h
  | some layout =>
    cases hs : d.screen with
    | none =>
      rw [select_of_screen_eq_none layer hl hs]
      exact h
    | some s =>
      rw [select_of_eq_some layer hl hs]
      show (d.selectOn layout s layer).Padded
      intro s' hs'
      unfold selectOn at hs'
      by_cases he : layer = .emoji
      · rw [if_pos he] at hs'
        obtain rfl := Option.some.inj hs'
        exact (h s hs).showEmoji _ _ _
      · rw [if_neg he] at hs'
        obtain rfl := Option.some.inj hs'
        refine Screen.padded_showMain (fun w hw hsame => ?_) _ _
        have hdrawn : d.drawn? = some w := by rw [drawn?, hs, Option.bind_some, hw]
        exact hg.eq_get hl hdrawn hsame

/-- A dispatcher whose presenter remembers what fits the layout, and the padding of that. -/
structure Sound (env : Environment) (d : Dispatcher) : Prop extends d.Genuine env where
  padded : d.Padded

theorem Sound.move (he : env.Steady) (h : d.Sound env) (hm : Move env d d') : d'.Sound env := by
  refine ⟨h.toGenuine.move he hm, ?_⟩
  rcases hm.quiet_or_select with hq | ⟨layer, rfl⟩
  · exact h.padded.quiet hq
  · exact h.padded.select h.toGenuine layer

end Dispatcher

/-- A catalog of one layout, which leaves the upper quarter of a keyboard free. -/
def Catalog.airy : Catalog :=
  empty.insert "qwerty"
    (Document.record
      [("name", .string "airy"),
        ("variants", .record [("alphabet", paddingEntry "25")])]).render

namespace Keyboard

open Dispatcher

variable {σ : Type}

/-! ### All runs -/

theorem sound_performAll {a : Assembly σ} (he : a.toEnvironment.Steady) (live : Settings)
    (position : σ) (operations : List Operation) :
    ((start live position).performAll a operations).dispatcher.Sound a.toEnvironment := by
  have hstart : (start live position).dispatcher.Sound a.toEnvironment :=
    ⟨⟨fun _ h => (by cases h), fun _ h => (by cases h)⟩, fun _ h => (by cases h)⟩
  exact of_moves (Sound.move he) hstart (performAll_moves a (start live position) operations)

/-- **Snapshots are consistent.**  After every run:

* a view is named exactly if a surface is;
* the emoji panel is the visible surface exactly if emoji is the layer on the screen;
* any other layer on the screen comes with a layout and a view, and the padding is the one that the
  layout has for that layer and that the frame of the view was told last;
* there is a padding only with a layout and a view;
* the shift key is off unless the main surface is visible;
* without a layout the script is unknown, there is no padding, and no layer but emoji is on the
  screen. -/
theorem snapshot_consistent (catalog : Catalog) (display : Display) (listening : Bool)
    (machine : StateMachine σ) (live : Settings) (position : σ) (operations : List Operation) :
    let a : Assembly σ := ⟨.ofCatalog catalog display listening, machine⟩
    let k := (start live position).performAll a operations
    let s := k.snapshot
    (s.view ≠ none ↔ s.visible ≠ none) ∧
    (s.visible = some .emoji ↔ s.layer = some .emoji) ∧
    (∀ layer, s.layer = some layer → layer ≠ .emoji →
      ∃ layout view, k.dispatcher.layout = some layout ∧ k.dispatcher.screen = some view ∧
        s.configuration = some layout.configuration ∧ s.view = some view.view ∧
        s.topPadding = some (layout.get layer).topPadding ∧
        s.topPadding = (Traffic.of view.record.calls).padding.getLast? ∧
        s.topPadding = some view.record.topPadding) ∧
    (s.topPadding ≠ none → s.configuration ≠ none ∧ s.view ≠ none) ∧
    (s.shift ≠ .off → s.visible = some .main) ∧
    (s.configuration = none →
      s.script = .unknown ∧ s.topPadding = none ∧ (s.layer = none ∨ s.layer = some .emoji)) := by
  intro a k s
  have he : a.toEnvironment.Steady := Environment.steady_ofCatalog catalog display listening
  have hsound : k.dispatcher.Sound a.toEnvironment := sound_performAll he live position operations
  have hviews : k.dispatcher.EveryView _ _ :=
    everyView_performAll lifeCycle_exclusive a live position operations
  have hlayer {layer : Layer} : k.dispatcher.currentLayer? = some layer ↔ _ :=
    currentLayer?_eq_some_iff hsound.toGenuine
  have hvariant {v : Variant} (hv : k.dispatcher.currentVariant? = some v) :=
    hsound.toGenuine.exists_of_currentVariant? hv
  refine ⟨?_, ?_, ?_, ?_, ?_, ?_⟩
  · show k.dispatcher.screen.map Screen.view ≠ none ↔ k.dispatcher.screen.map _ ≠ none
    rw [Ne, Ne, Option.map_eq_none_iff, Option.map_eq_none_iff]
  · refine ⟨currentLayer?_of_visible_eq_emoji, fun h => ?_⟩
    rcases hlayer.1 h with ⟨hvisible, -⟩ | ⟨-, v, hv, hemoji⟩
    · exact hvisible
    · -- no variant that is reported is the panel's
      obtain ⟨-, -, -, -, -, -, hmain⟩ := hvariant hv
      exact absurd hemoji hmain
  · intro layer h hne
    rcases hlayer.1 h with ⟨-, hemoji⟩ | ⟨-, v, hv, rfl⟩
    · exact absurd hemoji hne
    · obtain ⟨layout, view, hl, hs, hpresenter, hown, -⟩ := hvariant hv
      have htop : s.topPadding = some v.topPadding := by
        show k.dispatcher.currentVariant?.map _ = _
        rw [hv, Option.map_some]
      have hpadding : view.presenter.topPadding = some v.topPadding :=
        hsound.padded view hs v hpresenter
      have hstep := (hviews.attached view hs).1
      refine ⟨layout, view, hl, hs, ?_, ?_, ?_, ?_, ?_⟩
      · exact congrArg (Option.map Layout.configuration) hl
      · exact congrArg (Option.map Screen.view) hs
      · rw [hown, htop]
      · rw [htop, ← hstep.padding, hpadding]
      · rw [htop, hstep.topPadding _ hpadding]
  · intro h
    have hsome : k.dispatcher.currentVariant? ≠ none := fun hnone =>
      h (congrArg (Option.map fun v : Variant => v.topPadding) hnone)
    obtain ⟨v, hv⟩ := Option.ne_none_iff_exists'.1 hsome
    obtain ⟨layout, view, hl, hs, -⟩ := hvariant hv
    constructor
    · show k.dispatcher.layout.map _ ≠ none
      rw [hl]
      exact Option.some_ne_none _
    · show k.dispatcher.screen.map _ ≠ none
      rw [hs]
      exact Option.some_ne_none _
  · intro h
    replace h : ShiftState.ofLayer k.dispatcher.currentLayer? ≠ .off := h
    cases hcurrent : k.dispatcher.currentLayer? with
    | none =>
      rw [hcurrent] at h
      exact absurd rfl h
    | some layer =>
      rcases hlayer.1 hcurrent with ⟨-, rfl⟩ | ⟨hvisible, -⟩
      · rw [hcurrent] at h
        exact absurd rfl h
      · exact hvisible
  · intro h
    have hl : k.dispatcher.layout = none := Option.map_eq_none_iff.1 h
    have hnone : k.dispatcher.currentVariant? = none := by
      rw [currentVariant?, hl]
      rfl
    refine ⟨?_, ?_, ?_⟩
    · show (k.dispatcher.layout.map _).getD _ = _
      rw [hl]
      rfl
    · show k.dispatcher.currentVariant?.map _ = none
      rw [hnone, Option.map_none]
    · show k.dispatcher.currentLayer? = none ∨ k.dispatcher.currentLayer? = some .emoji
      rw [currentLayer?_of_layout_eq_none hl]
      by_cases hemoji : k.dispatcher.showsEmoji = true
      · exact .inr (if_pos hemoji)
      · exact .inl (if_neg hemoji)

/-- Capitals are locked on a keyboard whose upper quarter is free: the frame was told so. -/
theorem snapshot_consistent_of_shift_lock :
    let a : Assembly Layer := ⟨.ofCatalog .airy {} false, .basic⟩
    let k := (start {} .alphabet).performAll a
      [.command (.createView false), .command (.load {} {}), .select .alphabetShiftLocked]
    k.snapshot.layer = some .alphabetShiftLocked ∧ k.snapshot.visible = some .main ∧
      k.snapshot.configuration ≠ none ∧
      ∃ view, k.dispatcher.screen = some view ∧ k.snapshot.topPadding = some 141 ∧
        view.record.topPadding = 141 := by
  intro a k
  obtain ⟨hlayer, hshift, htop⟩ : k.snapshot.layer = some .alphabetShiftLocked ∧
      k.snapshot.shift ≠ .off ∧ k.snapshot.topPadding = some 141 := by
    decide +kernel
  obtain ⟨-, -, hmain, hpadding, hvisible, -⟩ := snapshot_consistent .airy {} false .basic {}
    .alphabet [.command (.createView false), .command (.load {} {}), .select .alphabetShiftLocked]
  -- the run is written out, so that the facts are the goals literally and nothing is evaluated
  dsimp only [k, a] at hmain hpadding hvisible hlayer hshift htop ⊢
  obtain ⟨layout, view, -, hview, -, -, -, -, htold⟩ := hmain _ hlayer (by decide)
  rw [htop] at htold hpadding
  obtain ⟨hconfiguration, -⟩ := hpadding (Option.some_ne_none _)
  exact ⟨hlayer, hvisible hshift, hconfiguration, view, hview, htop, (Option.some.inj htold).symm⟩

end Keyboard

end SoftKeyboard
