import SoftKeyboard.Proofs.Keyboard.Freshness

/-!
# A selection determines the surfaces

What a view is told when a layer is selected depends on all that was shown on it before.  What it
shows afterwards depends on the layer, the layout and the live settings alone
(`Keyboard.selection_determines`).  Only whether the presentation says that the subtype changed is a
matter of history.

The proof goes through what a record holds while a variant, or the panel, is on the screen
(`Record.ShowsVariant`, `Record.ShowsPanel`): a view in step holds it after it was told to, whatever
it held before.
-/

namespace SoftKeyboard

open Relation

/-! ### Records that show the same -/

namespace Record

/-- Two records show the same surfaces. -/
structure SameSurfaces (r r' : Record) : Prop where
  main : r'.mainVisible = r.mainVisible
  emoji : r'.emojiVisible = r.emojiVisible
  frame : r'.frameVisible = r.frameVisible
  running : r'.emojiRunning = r.emojiRunning

/-- Two records have the same variant, with the same padding, and in all but one field the same
presentation. -/
structure SameVariant (r r' : Record) : Prop where
  variant : ∃ v w, r.variant = some v ∧ r'.variant = some w ∧ v.isSame w = true
  topPadding : r'.topPadding = r.topPadding
  presentation : ∃ p q, r.presentation = some p ∧ r'.presentation = some q ∧
    q = { p with subtypeChanged := q.subtypeChanged }

variable {r r' : Record} {v : Variant} {live : Settings}

theorem ShowsPanel.sameSurfaces (h : r.ShowsPanel) (h' : r'.ShowsPanel) : r.SameSurfaces r' where
  main := h'.main.trans h.main.symm
  emoji := h'.emoji.trans h.emoji.symm
  frame := h'.frame.trans h.frame.symm
  running := h'.running.trans h.running.symm

theorem ShowsVariant.sameSurfaces (h : r.ShowsVariant v live) (h' : r'.ShowsVariant v live) :
    r.SameSurfaces r' where
  main := h'.main.trans h.main.symm
  emoji := h'.emoji.trans h.emoji.symm
  frame := h'.frame.trans h.frame.symm
  running := h'.running.trans h.running.symm

/-- Two views on which the same variant was shown under the same settings. -/
theorem ShowsVariant.sameVariant (h : r.ShowsVariant v live) (h' : r'.ShowsVariant v live) :
    r.SameVariant r' where
  variant := by
    obtain ⟨w, hw, hsame⟩ := h.variant
    obtain ⟨w', hw', hsame'⟩ := h'.variant
    refine ⟨w, w', hw, hw', ?_⟩
    unfold Variant.isSame at hsame hsame' ⊢
    rw [Bool.and_eq_true, beq_iff_eq, beq_iff_eq] at hsame hsame' ⊢
    exact ⟨hsame.1.trans hsame'.1.symm, hsame.2.trans hsame'.2.symm⟩
  topPadding := h'.topPadding.trans h.topPadding.symm
  presentation := by
    obtain ⟨previous, hp⟩ := h.presentation
    obtain ⟨previous', hp'⟩ := h'.presentation
    -- the variant before enters a presentation in one field only
    exact ⟨_, _, hp, hp', rfl⟩

end Record

namespace Dispatcher

variable {d : Dispatcher} {layout : Layout}

/-! ### What a selection leaves on the screen -/

/-- A selection with a layout and a view succeeds, and the view shows what was selected. -/
theorem exists_shows_select
    (h : d.EveryView (fun s => s.InStep ∧ s.record.Exclusive) Record.Exclusive)
    (hl : d.layout = some layout) (hs : d.screen ≠ none) (layer : Layer) :
    (d.select layer).1 = .ok () ∧
      ∃ s, (d.select layer).2.screen = some s ∧ (layer = .emoji → s.record.ShowsPanel) ∧
        (layer ≠ .emoji → s.record.ShowsVariant (layout.get layer) d.live) := by
  obtain ⟨s, hs⟩ := Option.ne_none_iff_exists'.1 hs
  obtain ⟨hstep, hexclusive⟩ := h.attached s hs
  rw [select_of_eq_some layer hl hs]
  refine ⟨rfl, ?_⟩
  show ∃ s', (d.selectOn layout s layer).screen = some s' ∧ _
  unfold selectOn
  by_cases he : layer = .emoji
  · rw [if_pos he]
    exact ⟨_, rfl, fun _ => Screen.showsPanel_showEmoji hstep hexclusive _ _ _,
      fun hne => absurd he hne⟩
  · rw [if_neg he]
    exact ⟨_, rfl, fun he' => absurd he' he,
      fun _ => Screen.showsVariant_showMain hstep (layout.get layer) d.live⟩

/-- A variant on the main surface that cannot be told from one of the layout is that one. -/
theorem Genuine.eq_get {env : Environment} (h : d.Genuine env) (hl : d.layout = some layout)
    {layer : Layer} {w : Variant} (hw : d.drawn? = some w)
    (hsame : w.isSame (layout.get layer) = true) : w = layout.get layer := by
  unfold Variant.isSame at hsame
  rw [Bool.and_eq_true, beq_iff_eq, beq_iff_eq, Layout.layer_get, Layout.stamp_get] at hsame
  obtain ⟨hlayer, hstamp⟩ := hsame
  have hown := (h.fits w hw).own layout hl hstamp.symm
  rw [← hown, hlayer]

end Dispatcher

namespace Keyboard

open Dispatcher

variable {σ : Type}

/-- What a selection leaves on the screen after a run. -/
theorem exists_shows_select_performAll {a : Assembly σ} {k : Keyboard σ}
    (hk : k.dispatcher.EveryView (fun s => s.InStep ∧ s.record.Exclusive) Record.Exclusive)
    (hg : a.toEnvironment.Steady → k.dispatcher.Genuine a.toEnvironment)
    (operations : List Operation) (layer : Layer) {layout : Layout}
    (hl : (k.performAll a operations).dispatcher.layout = some layout)
    (hs : (k.performAll a operations).dispatcher.screen ≠ none) :
    let k₁ := k.performAll a operations
    (k₁.select layer).1 = .ok () ∧
      ∃ s, (k₁.select layer).2.dispatcher.screen = some s ∧
        (layer = .emoji → s.record.ShowsPanel) ∧
        (layer ≠ .emoji → s.record.ShowsVariant (layout.get layer) k₁.dispatcher.live ∧
          (a.toEnvironment.Steady → s.record.variant = some (layout.get layer))) := by
  intro k₁
  have hmoves := performAll_moves a k operations
  have hviews := lifeCycle_exclusive.everyView_of_moves hk hmoves
  obtain ⟨hok, s, hs', hpanel, hvariant⟩ := exists_shows_select hviews hl hs layer
  refine ⟨hok, s, hs', hpanel, fun hne => ⟨hvariant hne, fun he => ?_⟩⟩
  obtain ⟨w, hw, hsame⟩ := (hvariant hne).variant
  -- the selection is one more move, after which the variant is the layout's own
  have hselect : Move a.toEnvironment k₁.dispatcher (k₁.dispatcher.select layer).2 :=
    .request (.select _ layer)
  have hgenuine := (of_moves (Genuine.move he) (hg he) hmoves).move he hselect
  have hstep := (lifeCycle_exclusive.everyView_move hviews hselect).attached s hs'
  have hdrawn : (k₁.dispatcher.select layer).2.drawn? = some w := by
    rw [drawn?, hs', Option.bind_some, ← hstep.1.variant]
    exact hw
  have hlayout : (k₁.dispatcher.select layer).2.layout = some layout :=
    (k₁.dispatcher.sameHoldings_select layer).layout.trans hl
  rw [hw, hgenuine.eq_get hlayout hdrawn hsame]

/-- **A selection determines the surfaces.**  From any state that a keyboard reaches, let two runs
go on in any two ways, under machines that may differ from each other and from the one before.  If
they end with the same layout, with a view each and with equal live settings, then selecting a layer
succeeds on both and makes both views show the same surfaces, and, unless the layer is emoji, the
same variant with the same padding and, but for whether the subtype changed, the same presentation.
The variant is the layout's own if the builder is steady. -/
theorem selection_determines (env : Environment) (machine machine₁ machine₂ : StateMachine σ)
    (live : Settings) (position : σ) (operations operations₁ operations₂ : List Operation)
    (layer : Layer) (layout : Layout) :
    let k := (start live position).performAll ⟨env, machine⟩ operations
    let k₁ := k.performAll ⟨env, machine₁⟩ operations₁
    let k₂ := k.performAll ⟨env, machine₂⟩ operations₂
    k₁.dispatcher.layout = some layout → k₂.dispatcher.layout = some layout →
    k₁.dispatcher.screen ≠ none → k₂.dispatcher.screen ≠ none →
    k₂.dispatcher.live = k₁.dispatcher.live →
      (k₁.select layer).1 = .ok () ∧ (k₂.select layer).1 = .ok () ∧
        ∃ s₁ s₂, (k₁.select layer).2.dispatcher.screen = some s₁ ∧
          (k₂.select layer).2.dispatcher.screen = some s₂ ∧
          s₁.record.SameSurfaces s₂.record ∧
          (layer ≠ .emoji → s₁.record.SameVariant s₂.record ∧
            (env.Steady → s₁.record.variant = some (layout.get layer) ∧
              s₂.record.variant = some (layout.get layer))) := by
  intro k k₁ k₂ hl₁ hl₂ hs₁ hs₂ hlive
  have hmoves := performAll_moves ⟨env, machine⟩ (start live position) operations
  have hviews : k.dispatcher.EveryView _ _ :=
    lifeCycle_exclusive.everyView_of_moves (everyView_start _ _ live position) hmoves
  have hgenuine : env.Steady → k.dispatcher.Genuine env := fun he =>
    of_moves (Genuine.move he) ⟨fun _ h => (by cases h), fun _ h => (by cases h)⟩ hmoves
  obtain ⟨hok₁, s₁, hscreen₁, hpanel₁, hvariant₁⟩ :=
    exists_shows_select_performAll (a := ⟨env, machine₁⟩) hviews hgenuine operations₁ layer hl₁ hs₁
  obtain ⟨hok₂, s₂, hscreen₂, hpanel₂, hvariant₂⟩ :=
    exists_shows_select_performAll (a := ⟨env, machine₂⟩) hviews hgenuine operations₂ layer hl₂ hs₂
  refine ⟨hok₁, hok₂, s₁, s₂, hscreen₁, hscreen₂, ?_⟩
  by_cases hemoji : layer = .emoji
  · exact ⟨(hpanel₁ hemoji).sameSurfaces (hpanel₂ hemoji), fun hne => absurd hemoji hne⟩
  · obtain ⟨hshows₁, hown₁⟩ := hvariant₁ hemoji
    obtain ⟨hshows₂, hown₂⟩ := hvariant₂ hemoji
    rw [hlive] at hshows₂
    exact ⟨hshows₁.sameSurfaces hshows₂, fun _ => ⟨hshows₁.sameVariant hshows₂,
      fun he => ⟨hown₁ he, hown₂ he⟩⟩⟩

/-- One run goes on with the emoji panel and then with a fresh view, the other one with a machine
that never does anything and with the symbols on the view it has.  The alphabet makes both views
show the same, but for the subtype: on the fresh view it is new. -/
theorem selection_determines_after_emoji :
    let silent : StateMachine Layer :=
      ⟨fun _ _ position => .done (.ok (), position), fun position => ([], position)⟩
    let k := (start {} .alphabet).performAll ⟨.unsplit, .basic⟩
      [.command (.createView false), .command (.load {} {})]
    let k₁ := k.performAll ⟨.unsplit, .basic⟩
      [.command (.toggleEmoji {}), .command (.createView true)]
    let k₂ := k.performAll ⟨.unsplit, silent⟩ [.select .symbols, .command .releaseResources]
    (∃ s₁ s₂, (k₁.select .alphabet).2.dispatcher.screen = some s₁ ∧
        (k₂.select .alphabet).2.dispatcher.screen = some s₂ ∧
        s₁.record.SameSurfaces s₂.record ∧ s₁.record.SameVariant s₂.record) ∧
      (k₁.select .alphabet).2.dispatcher.screen.map
          (fun s => s.record.presentation.map Presentation.subtypeChanged) = some (some true) ∧
      (k₂.select .alphabet).2.dispatcher.screen.map
          (fun s => s.record.presentation.map Presentation.subtypeChanged) = some (some false) := by
  intro silent k k₁ k₂
  obtain ⟨layout, hl₁⟩ := Option.isSome_iff_exists.1
    (show k₁.dispatcher.layout.isSome = true by decide +kernel)
  have hl₂ : k₂.dispatcher.layout = some layout := by
    rw [← hl₁]
    decide +kernel
  have hs₁ : k₁.dispatcher.screen ≠ none := by decide +kernel
  have hs₂ : k₂.dispatcher.screen ≠ none := by decide +kernel
  have h := selection_determines .unsplit .basic .basic silent {} .alphabet
    [.command (.createView false), .command (.load {} {})]
    [.command (.toggleEmoji {}), .command (.createView true)]
    [.select .symbols, .command .releaseResources] .alphabet layout hl₁ hl₂ hs₁ hs₂ rfl
  obtain ⟨-, -, s₁, s₂, hscreen₁, hscreen₂, hsurfaces, hvariant⟩ := h
  have hmain : Layer.alphabet ≠ .emoji := by decide
  refine ⟨⟨s₁, s₂, hscreen₁, hscreen₂, hsurfaces, (hvariant hmain).1⟩, ?_, ?_⟩
  · decide +kernel
  · decide +kernel

end Keyboard

end SoftKeyboard
