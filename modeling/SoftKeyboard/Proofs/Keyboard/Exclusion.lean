import SoftKeyboard.Machine.Basic
import SoftKeyboard.Proofs.Dispatcher.Views
import SoftKeyboard.Proofs.Keyboard.Moves

/-!
# One surface at a time

`Keyboard.one_surface_of_performAll`: whatever a host does to a keyboard, and whatever its state
machine and its builder answer, exactly one of main surface and emoji panel of the attached view is
visible, the view's record agrees with what its presenter remembers, and in no view, at no point of
its list of calls, the emoji panel was visible together with the main surface or the frame.

The proof is the induction over the life of views, with the two properties of
`SoftKeyboard.Proofs.Surface.Visibility` together as the invariant of an attached view: the calls of
a change are safe because the presenter's memory, on which they depend, is true of the record.
-/

namespace SoftKeyboard

open Relation Dispatcher

/-- A view in step that has been exclusive so far goes on so until it is closed. -/
theorem lifeCycle_exclusive :
    LifeCycle (fun s => s.InStep ∧ s.record.Exclusive) Record.Exclusive where
  attach _ _ _ _ := ⟨Screen.inStep_attach .., Screen.exclusive_attach ..⟩
  change _ _ h hc := ⟨h.1.change hc, Screen.exclusive_change h.1 h.2 hc⟩
  close _ h := Screen.exclusive_close h.1 h.2
  setMoreKeys _ _ h := ⟨h.visibility, h.stays⟩

namespace Keyboard

variable {σ : Type}

theorem everyView_start (P : Screen → Prop) (Q : Record → Prop) (live : Settings) (position : σ) :
    (start live position).dispatcher.EveryView P Q where
  attached _ h := nomatch h
  retired _ h := nomatch h

theorem everyView_performAll {P : Screen → Prop} {Q : Record → Prop} (hl : LifeCycle P Q)
    (a : Assembly σ) (live : Settings) (position : σ) (operations : List Operation) :
    ((start live position).performAll a operations).dispatcher.EveryView P Q :=
  hl.everyView_of_moves (everyView_start P Q live position)
    (performAll_moves a (start live position) operations)

/-- **One surface at a time.**  After every run, exactly one of main surface and emoji panel of the
attached view is visible, namely the one that the keyboard names, and the view is in step with its
presenter.  At every point of every view's list of calls, the emoji panel is visible neither with
the main surface nor with the frame. -/
theorem one_surface_of_performAll (a : Assembly σ) (live : Settings) (position : σ)
    (operations : List Operation) :
    let d := ((start live position).performAll a operations).dispatcher
    (∀ s, d.screen = some s →
      (d.visible? = some .main ∧ s.record.mainVisible = true ∧ s.record.emojiVisible = false ∨
        d.visible? = some .emoji ∧ s.record.mainVisible = false ∧ s.record.emojiVisible = true) ∧
      s.InStep) ∧
    ∀ r ∈ d.views, ∀ before, before <+: r.calls →
      ¬((r.blank.applyAll before).mainVisible = true ∧
        (r.blank.applyAll before).emojiVisible = true) ∧
      ¬((r.blank.applyAll before).emojiVisible = true ∧
        (r.blank.applyAll before).frameVisible = true) := by
  intro d
  have h : d.EveryView _ _ := everyView_performAll lifeCycle_exclusive a live position operations
  constructor
  · intro s hs
    have hstep := (h.attached s hs).1
    refine ⟨?_, hstep⟩
    -- the record shows what the presenter remembers, and that is one of the two
    have hvisible : d.visible? = some s.presenter.visible := by rw [visible?, hs, Option.map_some]
    rw [hvisible, hstep.main, hstep.emoji]
    cases s.presenter.visible with
    | main => exact .inl ⟨rfl, rfl, rfl⟩
    | emoji => exact .inr ⟨rfl, rfl, rfl⟩
  · intro r hr before hb
    have he : r.Exclusive := by
      -- a record is kept from a view before, or it is the attached view's
      rcases List.mem_append.1 hr with hr | hr
      · exact h.retired r hr
      · obtain ⟨s, hs, rfl⟩ := Option.map_eq_some_iff.1 (Option.mem_toList.1 hr)
        exact (h.attached s hs).2
    exact he.applyAll_blank hb

/-- The basic machine's keyboard shows the emoji panel on its first view, and only that. -/
theorem one_surface_of_toggleEmoji :
    let k := (start {} .alphabet).performAll ⟨.unsplit, .basic⟩
      [.command (.createView false), .command (.toggleEmoji {})]
    k.dispatcher.visible? = some .emoji ∧
      ∃ s, k.dispatcher.screen = some s ∧ s.record.mainVisible = false ∧
        s.record.emojiVisible = true ∧ s.InStep ∧
        ¬((s.record.blank.applyAll s.record.calls).emojiVisible = true ∧
          (s.record.blank.applyAll s.record.calls).frameVisible = true) := by
  intro k
  have hv : k.dispatcher.visible? = some .emoji := rfl
  obtain ⟨s, hs⟩ := Option.isSome_iff_exists.1 (show k.dispatcher.screen.isSome = true from rfl)
  have h := one_surface_of_performAll ⟨.unsplit, .basic⟩ {} .alphabet
    [.command (.createView false), .command (.toggleEmoji {})]
  have hmem : s.record ∈ k.dispatcher.views := by
    rw [views, hs]
    exact List.mem_append_right _ (List.mem_singleton.2 rfl)
  obtain ⟨hpane, hstep⟩ := h.1 s hs
  refine ⟨hv, s, hs, ?_, ?_, hstep, (h.2 s.record hmem s.record.calls (List.prefix_refl _)).2⟩
  · rcases hpane with ⟨hmain, -⟩ | ⟨-, hmain, -⟩
    · exact absurd (hv.symm.trans hmain) (by decide)
    · exact hmain
  · rcases hpane with ⟨hmain, -⟩ | ⟨-, -, hemoji⟩
    · exact absurd (hv.symm.trans hmain) (by decide)
    · exact hemoji

end Keyboard

end SoftKeyboard
