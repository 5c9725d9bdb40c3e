import SoftKeyboard.Proofs.Keyboard.Caching
import SoftKeyboard.Proofs.Keyboard.Exclusion

/-!
# No variant of the past

The main surface keeps the variant it drew last, even after the layout that the variant belongs to
was replaced or dropped.  Only the stamp tells such a variant from one of the layout in use: a
layout built once more for the same configuration has equal contents.

`Dispatcher.Fits` says of a variant that it can be told so: its stamp was given before, and where
the layout has that stamp, the variant is the layout's own.  Drawing makes such variants, and every
move keeps them so.  Hence a variant that is reported is the layout's own at any time, and none of a
layout of the past (`Keyboard.currentVariant_is_own`).
-/

namespace SoftKeyboard

open Relation

namespace Dispatcher

variable {env : Environment} {d d' : Dispatcher}

/-! ### What the main surface has drawn -/

/-- The variant on the main surface of the attached view, whatever layout it belongs to. -/
def drawn? (d : Dispatcher) : Option Variant := d.screen.bind fun s => s.presenter.variant

theorem currentVariant?_eq_some {v : Variant} (h : d.currentVariant? = some v) :
    ∃ layout, d.layout = some layout ∧ d.drawn? = some v ∧ layout.contains v = true := by
  unfold currentVariant? at h
  obtain ⟨layout, hl, h⟩ := Option.bind_eq_some_iff.1 h
  obtain ⟨s, hs, h⟩ := Option.bind_eq_some_iff.1 h
  obtain ⟨hv, hc⟩ := Option.filter_eq_some_iff.1 h
  refine ⟨layout, hl, ?_, hc⟩
  rw [drawn?, hs]
  exact hv

/-- A change of the view that leaves the presenter's variant alone. -/
theorem drawn?_map (d : Dispatcher) {f : Screen → Screen}
    (hf : ∀ s, (f s).presenter.variant = s.presenter.variant) :
    ({ d with screen := d.screen.map f } : Dispatcher).drawn? = d.drawn? := by
  show (d.screen.map f).bind _ = d.screen.bind _
  cases d.screen with
  | none => rfl
  | some s => exact hf s

/-- What becomes of the variant on the main surface in a move. -/
inductive DrawnStep (d d' : Dispatcher) : Prop where
  | kept (variant : d'.drawn? = d.drawn?)
  | cleared (variant : d'.drawn? = none)
  /-- A layer of the layout is drawn that the main surface shows. -/
  | drew {layout : Layout} {layer : Layer} (hl : d.layout = some layout) (main : layer ≠ .emoji)
    (variant : d'.drawn? = some (layout.get layer))

theorem drawnStep_selectOn {layout : Layout} {s : Screen} (layer : Layer)
    (hl : d.layout = some layout) (hs : d.screen = some s) :
    DrawnStep d (d.selectOn layout s layer) := by
  have hd : d.drawn? = s.presenter.variant := by rw [drawn?, hs, Option.bind_some]
  unfold selectOn
  by_cases he : layer = .emoji
  · rw [if_pos he]
    exact .kept ((s.presenter.variant_showEmoji _ _ _).trans hd.symm)
  · rw [if_neg he]
    rcases s.presenter.variant_showMain (layout.get layer)
      (.derive d.live (layout.get layer) s.presenter.variant) d.live.hardwareKeyboard with hv | hv
    · exact .kept (hv.trans hd.symm)
    · exact .drew hl he hv

theorem Request.drawnStep (h : Request d d') : DrawnStep d d' := by
  cases h with
  | select layer =>
    cases hl : d.layout with
    | none =>
      rw [select_of_layout_eq_none layer hl]
      exact .kept rfl
    | some layout =>
      cases hs : d.screen with
      | none =>
        rw [select_of_screen_eq_none layer hl hs]
        exact .kept rfl
      | some s =>
        rw [select_of_eq_some layer hl hs]
        exact drawnStep_selectOn layer hl hs
  | setTimer running => exact .kept (d.drawn?_map fun _ => rfl)
  | queue pending => exact .kept rfl
  | note notices => exact .kept rfl

/-- **What a move does to the variant on the main surface**: it stays, or the view is another one or
gone, or a layer of the layout takes its place. -/
theorem Move.drawnStep (h : Move env d d') : DrawnStep d d' := by
  cases h with
  | request hr => exact hr.drawnStep
  | updateTheme id =>
    rcases updateTheme_cases env d id with ⟨notices, hu⟩ | ⟨notices, hu⟩
    · rw [hu]
      exact .kept rfl
    · rw [hu]
      exact .kept rfl
  | prepare editor settings =>
    refine .kept ?_
    rw [drawn?, (d.sameViews_prepare env editor settings).1]
    rfl
  | createView hardwareAcceleration =>
    obtain ⟨view, name, theme, retired, notices, hd⟩ :=
      exists_createView_eq env d hardwareAcceleration
    rw [hd]
    exact .cleared rfl
  | destroyView =>
    obtain ⟨retired, notices, hd⟩ := exists_destroyView_eq d
    rw [hd]
    exact .cleared rfl
  | releaseResources =>
    refine .kept ?_
    unfold Dispatcher.releaseResources
    split
    · rfl
    · rename_i s hs
      rw [drawn?, drawn?, hs]
      rfl
  | hideWindow => exact .kept (d.drawn?_map fun _ => rfl)
  | save =>
    obtain ⟨saved, notices, hd⟩ := exists_save_eq d
    rw [hd]
    exact .kept rfl
  | forget => exact .kept rfl
  | publish settings => exact .kept rfl
  | setMoreKeys showing =>
    refine .kept ?_
    unfold Dispatcher.setMoreKeys
    split
    · rename_i s hs
      rw [drawn?, drawn?, hs]
      rfl
    · rfl
    · rfl

/-! ### Variants that can be told apart -/

/-- A variant for the main surface whose stamp was given before, and which is the layout's own where
the layout has that stamp. -/
structure Fits (d : Dispatcher) (v : Variant) : Prop where
  main : v.layer ≠ .emoji
  given : v.stamp < d.builds
  own : ∀ layout, d.layout = some layout → layout.stamp = v.stamp → layout.get v.layer = v

theorem fits_get (he : env.Steady) (hs : d.Sourced env) {layout : Layout} {layer : Layer}
    (hl : d.layout = some layout) (hm : layer ≠ .emoji) : d.Fits (layout.get layer) where
  main := hm
  given := hs.stamp_lt he hl
  own layout' hl' _ := by
    obtain rfl := Option.some.inj (hl.symm.trans hl')
    rfl

theorem Fits.move (he : env.Steady) {v : Variant} (h : d.Fits v) (hm : Move env d d') :
    d'.Fits v := by
  have hgiven := h.given
  rcases hm.layoutStep.kept_or_past he hgiven with ⟨hlayout, hbuilds⟩ | hpast
  · exact ⟨h.main, by omega, fun layout hl => h.own layout (hlayout.symm.trans hl)⟩
  · -- a new layout has a stamp that no variant drawn before can have
    exact ⟨h.main, hpast.given, fun layout hl hv => absurd hv (hpast.replaced layout hl)⟩

/-- The layout is an answer of the builder, and the variant on the main surface fits. -/
structure Genuine (env : Environment) (d : Dispatcher) : Prop where
  sourced : d.Sourced env
  fits : ∀ v, d.drawn? = some v → d.Fits v

theorem Genuine.move (he : env.Steady) (h : d.Genuine env) (hm : Move env d d') :
    d'.Genuine env := by
  refine ⟨h.sourced.move hm, fun v hv => ?_⟩
  -- the variant fits before the move, be it there already or be it drawn by the move
  have hfits : d.Fits v := by
    cases hm.drawnStep with
    | kept hd => exact h.fits v (hd.symm.trans hv)
    | cleared hd => cases hd.symm.trans hv
    | drew hl hmain hd =>
      obtain rfl := Option.some.inj (hd.symm.trans hv)
      exact fits_get he h.sourced hl hmain
  exact hfits.move he hm

end Dispatcher

namespace Keyboard

open Dispatcher

variable {σ : Type}

/-- **No variant of the past is reported.**  After every run, a variant that is reported is the
layout's own for its layer, has the configuration of the layout, is not the emoji panel's, and is
the one that the record of the attached view shows.  A layout that was in use once and is so no more
has none of the variants that are reported from then on, whatever is loaded again. -/
theorem currentVariant_is_own (catalog : Catalog) (display : Display) (listening : Bool)
    (machine : StateMachine σ) (live : Settings) (position : σ) (operations : List Operation) :
    let a : Assembly σ := ⟨.ofCatalog catalog display listening, machine⟩
    let k := (start live position).performAll a operations
    (∀ v, k.dispatcher.currentVariant? = some v →
      ∃ layout s, k.dispatcher.layout = some layout ∧ k.dispatcher.screen = some s ∧
        layout.get v.layer = v ∧ k.dispatcher.configuration? = some v.configuration ∧
        v.layer ≠ .emoji ∧ s.record.variant = some v) ∧
    ∀ layout between later,
      let k₁ := k.performAll a between
      let k₂ := k₁.performAll a later
      k.dispatcher.layout = some layout → k₁.dispatcher.layout ≠ some layout →
        ∀ v, k₂.dispatcher.currentVariant? = some v → layout.contains v = false := by
  intro a k
  have he : a.toEnvironment.Steady := Environment.steady_ofCatalog catalog display listening
  have hg : k.dispatcher.Genuine a.toEnvironment :=
    of_moves (Genuine.move he) ⟨fun _ h => (by cases h), fun _ h => (by cases h)⟩
      (performAll_moves a (start live position) operations)
  constructor
  · intro v hv
    obtain ⟨layout, hl, hdrawn, hcontains⟩ := currentVariant?_eq_some hv
    obtain ⟨s, hs, hvariant⟩ := Option.bind_eq_some_iff.1 hdrawn
    have hstamp : layout.stamp = v.stamp := by
      rw [layout.contains_eq] at hcontains
      exact eq_of_beq hcontains
    have hfits := hg.fits v hdrawn
    have hown := hfits.own layout hl hstamp
    refine ⟨layout, s, hl, hs, hown, ?_, hfits.main, ?_⟩
    · rw [configuration?, hl, ← hown]
      rfl
    · have hviews : k.dispatcher.EveryView _ _ :=
        everyView_performAll lifeCycle_exclusive a live position operations
      rw [(hviews.attached s hs).1.variant]
      exact hvariant
  · intro layout between later k₁ k₂ hl hgone v hv
    -- the layout is past after the operations in between, and stays so
    have hpast : k₁.dispatcher.Past layout.stamp :=
      (eq_or_past_of_moves he hg.sourced hl (performAll_moves a k between)).resolve_left hgone
    have hpast₂ : k₂.dispatcher.Past layout.stamp :=
      of_moves (Past.move he) hpast (performAll_moves a k₁ later)
    obtain ⟨layout', hl', -, hcontains⟩ := currentVariant?_eq_some hv
    rw [Layout.contains_eq] at hcontains ⊢
    rw [← eq_of_beq hcontains]
    exact beq_false_of_ne (hpast₂.replaced layout' hl').symm

/-- The English layout is loaded again after the French one, with the configuration it had before.
The variant that is reported then is not one of those before. -/
theorem currentVariant_is_own_after_french :
    let a : Assembly Layer := ⟨.ofCatalog .bare {} false, .basic⟩
    let k := (start {} .alphabet).performAll a
      [.command (.createView false), .command (.load {} {})]
    let k₁ := k.performAll a
      [.command (.load {} { subtype := ⟨"fr_FR", "qwerty"⟩ }), .command (.load {} {})]
    let k₂ := k₁.performAll a [.command .hideWindow]
    k₁.dispatcher.configuration? = k.dispatcher.configuration? ∧
      ∃ layout v w, k.dispatcher.layout = some layout ∧ k.dispatcher.currentVariant? = some v ∧
        layout.get v.layer = v ∧ k₂.dispatcher.currentVariant? = some w ∧
        layout.contains w = false := by
  intro a k k₁ k₂
  have hc : k₁.dispatcher.configuration? = k.dispatcher.configuration? := by decide +kernel
  have hgone : k₁.dispatcher.layout ≠ k.dispatcher.layout := by decide +kernel
  obtain ⟨layout, hl⟩ := Option.isSome_iff_exists.1
    (show k.dispatcher.layout.isSome = true by decide +kernel)
  obtain ⟨v, hv⟩ := Option.isSome_iff_exists.1
    (show k.dispatcher.currentVariant?.isSome = true by decide +kernel)
  obtain ⟨w, hw⟩ := Option.isSome_iff_exists.1
    (show k₂.dispatcher.currentVariant?.isSome = true by decide +kernel)
  rw [hl] at hgone
  have h := currentVariant_is_own .bare {} false .basic {} .alphabet
    [.command (.createView false), .command (.load {} {})]
  -- the runs are written out, so that the facts are the goals literally and nothing is evaluated
  dsimp only [k₂, k₁, k, a] at h hc hgone hl hv hw ⊢
  obtain ⟨layout', s, hl', -, hown, -⟩ := h.1 v hv
  obtain rfl := Option.some.inj (hl.symm.trans hl')
  exact ⟨hc, layout, v, w, hl, hv, hown, hw, h.2 layout _ _ hl hgone w hw⟩

end Keyboard

end SoftKeyboard
