import SoftKeyboard.Proofs.Surface.Visibility

/-!
# What a view shows once it was told

A presenter leaves out the calls that it takes to be redundant, so what reaches a view depends on
what was shown before.  What the view shows afterwards does not.

* `Record.ShowsVariant` and `Record.ShowsPanel` say what a record holds when a variant, or the emoji
  panel, is on the screen.  A view in step holds it after it was told to
  (`Screen.showsVariant_showMain`, `Screen.showsPanel_showEmoji`), whatever it held before.
* What is shown already takes one call to be shown again, the presentation, or none if it is the
  emoji panel (`Presenter.shows_showMain`, `Presenter.showEmoji_of_showsEmoji`).
-/

namespace SoftKeyboard

/-! ### Presenters -/

namespace Presenter

/-- The variant on the main surface is the one shown last, or is indistinguishable from it. -/
theorem exists_variant_showMain (p : Presenter) (v : Variant) (presentation : Presentation)
    (collapse : Bool) :
    ∃ w, (p.showMain v presentation collapse).1.variant = some w ∧ w.isSame v = true := by
  show ∃ w, (if p.draws v then p.variant else some v) = some w ∧ w.isSame v = true
  by_cases hd : p.draws v = true
  · rw [if_pos hd]
    unfold draws at hd
    rw [Option.any_eq_true] at hd
    exact hd
  · rw [if_neg hd]
    exact ⟨v, rfl, by simp [Variant.isSame]⟩

/-- The main surface has the variant it had, or the one that is shown. -/
theorem variant_showMain (p : Presenter) (v : Variant) (presentation : Presentation)
    (collapse : Bool) :
    (p.showMain v presentation collapse).1.variant = p.variant ∨
      (p.showMain v presentation collapse).1.variant = some v := by
  show (if p.draws v then p.variant else some v) = _ ∨ (if p.draws v then p.variant else some v) = _
  by_cases hd : p.draws v = true
  · exact .inl (if_pos hd)
  · exact .inr (if_neg hd)

theorem variant_showEmoji (p : Presenter) (label : String) (look : Look) (icons : IconSet) :
    (p.showEmoji label look icons).1.variant = p.variant := by
  unfold showEmoji
  split <;> rfl

theorem topPadding_showEmoji (p : Presenter) (label : String) (look : Look) (icons : IconSet) :
    (p.showEmoji label look icons).1.topPadding = p.topPadding := by
  unfold showEmoji
  split <;> rfl

theorem showsEmoji_iff (p : Presenter) :
    p.showsEmoji = true ↔ p.visible = .emoji ∧ p.emojiStarted = true := by
  unfold showsEmoji
  rw [Bool.and_eq_true, decide_eq_true_eq]

theorem showsEmoji_showEmoji (p : Presenter) (label : String) (look : Look) (icons : IconSet) :
    (p.showEmoji label look icons).1.showsEmoji = true := by
  unfold showEmoji
  by_cases he : p.showsEmoji = true
  · -- the panel is running and visible already
    rw [if_pos he]
    exact he
  · rw [if_neg he]
    rfl

theorem visible_showEmoji (p : Presenter) (label : String) (look : Look) (icons : IconSet) :
    (p.showEmoji label look icons).1.visible = .emoji :=
  ((showsEmoji_iff _).1 (p.showsEmoji_showEmoji label look icons)).1

/-! ### Showing once more -/

/-- The presenter shows the variant already: to show it once more takes nothing but the
presentation. -/
def Shows (p : Presenter) (v : Variant) (collapse : Bool) : Prop :=
  ∀ presentation, p.showMain v presentation collapse = (p, [.present presentation])

/-- **What was shown is shown.** -/
theorem shows_showMain (p : Presenter) (v : Variant) (presentation : Presentation)
    (collapse : Bool) : (p.showMain v presentation collapse).1.Shows v collapse := by
  intro again
  obtain ⟨w, hw, hsame⟩ := p.exists_variant_showMain v presentation collapse
  have hdraws : (p.showMain v presentation collapse).1.draws v = true := by
    rw [draws, hw]
    exact hsame
  -- all else that the variant brings with it is remembered literally
  unfold showMain at hdraws ⊢
  simp [hdraws, stopCalls, frameCalls]

/-- A panel that is running and visible is told nothing. -/
theorem showEmoji_of_showsEmoji {p : Presenter} (h : p.showsEmoji = true) (label : String)
    (look : Look) (icons : IconSet) : p.showEmoji label look icons = (p, []) := by
  rw [showEmoji, if_pos h]

end Presenter

/-! ### Changes that show nothing -/

/-- What may happen to an attached view other than being shown something. -/
inductive Screen.Upkeep : Screen → Screen → Prop where
  | releaseResources (s : Screen) : Upkeep s s.releaseResources.1
  | hideWindow (s : Screen) : Upkeep s s.hideWindow
  | setTimer (s : Screen) (running : Bool) : Upkeep s (s.setTimer running)
  | setMoreKeys (s : Screen) (showing : Bool) : Upkeep s (s.setMoreKeys showing)

theorem Screen.Upkeep.change {s s' : Screen} (h : s.Upkeep s') : s.Change s' := by
  cases h with
  | releaseResources => exact .releaseResources s
  | hideWindow => exact .hideWindow s
  | setTimer running => exact .setTimer s running
  | setMoreKeys showing => exact .setMoreKeys s showing

/-- The surface that is visible stays visible. -/
theorem Screen.Upkeep.visible_eq {s s' : Screen} (h : s.Upkeep s') :
    s'.presenter.visible = s.presenter.visible := by
  cases h <;> rfl

/-! ### Records -/

namespace Record

/-- What the record of a view holds that shows a variant on its main surface under settings. -/
structure ShowsVariant (r : Record) (v : Variant) (live : Settings) : Prop where
  main : r.mainVisible = true
  emoji : r.emojiVisible = false
  frame : r.frameVisible = !live.hardwareKeyboard
  running : r.emojiRunning = false
  variant : ∃ w, r.variant = some w ∧ w.isSame v = true
  topPadding : r.topPadding = v.topPadding
  /-- Which variant was shown before, is all that the presentation depends on besides. -/
  presentation : ∃ previous, r.presentation = some (.derive live v previous)

/-- What the record of a view holds that shows its emoji panel. -/
structure ShowsPanel (r : Record) : Prop where
  main : r.mainVisible = false
  emoji : r.emojiVisible = true
  frame : r.frameVisible = false
  running : r.emojiRunning = true

end Record

namespace Screen

variable {s : Screen}

/-- The presentation is passed on always. -/
theorem presentation_showMain (s : Screen) (v : Variant) (presentation : Presentation)
    (collapse : Bool) :
    (s.showMain v presentation collapse).1.record.presentation = some presentation := by
  show (s.record.applyAll (s.presenter.showMain v presentation collapse).2).presentation = _
  rw [Record.presentation_applyAll, Presenter.traffic_showMain]
  rfl

theorem showsVariant_showMain (h : s.InStep) (v : Variant) (live : Settings) :
    (s.showMain v (.derive live v s.presenter.variant)
      live.hardwareKeyboard).1.record.ShowsVariant v live := by
  have h' := h.change (.showMain s v (.derive live v s.presenter.variant) live.hardwareKeyboard)
  refine ⟨h'.main, h'.emoji, h'.frame, h'.running, ?_, h'.topPadding _ rfl, ?_⟩
  · rw [h'.variant]
    exact s.presenter.exists_variant_showMain v (.derive live v s.presenter.variant)
      live.hardwareKeyboard
  · exact ⟨s.presenter.variant, s.presentation_showMain ..⟩

theorem showsPanel_showEmoji (h : s.InStep) (he : s.record.Exclusive) (label : String)
    (look : Look) (icons : IconSet) : (s.showEmoji label look icons).1.record.ShowsPanel := by
  have hc : s.Change (s.showEmoji label look icons).1 := .showEmoji s label look icons
  have h' := h.change hc
  obtain ⟨hvisible, hstarted⟩ :=
    (Presenter.showsEmoji_iff _).1 (s.presenter.showsEmoji_showEmoji label look icons)
  replace hvisible : (s.showEmoji label look icons).1.presenter.visible = .emoji := hvisible
  have hemoji : (s.showEmoji label look icons).1.record.emojiVisible = true := by
    rw [h'.emoji, hvisible]
    rfl
  -- the panel is visible, so neither the main surface nor the frame is
  have halone := (Visibility.isExclusive_iff _).1 (h'.visibility ▸ isExclusive_shown h'
    (exclusive_change h he hc))
  exact ⟨Bool.eq_false_iff.2 fun hmain => halone.1 ⟨hmain, hemoji⟩, hemoji,
    Bool.eq_false_iff.2 fun hframe => halone.2 ⟨hemoji, hframe⟩, h'.running.trans hstarted⟩

end Screen

end SoftKeyboard
