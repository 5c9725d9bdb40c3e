import SoftKeyboard.Machine.Rules
import SoftKeyboard.Proofs.Dispatcher.EmojiPanel
import SoftKeyboard.Proofs.Keyboard.Availability
import SoftKeyboard.Proofs.Keyboard.Exclusion
import SoftKeyboard.Proofs.Keyboard.Reload
import SoftKeyboard.Proofs.Keyboard.Selections

/-!
# What the emoji panel shows

A selection of the emoji panel leaves it running and visible, but starts it only if it was not so
before.  A load that takes place behind the panel, with a machine that selects the panel right away,
leaves it with the label, the look and the icons of the layout before
(`Keyboard.panel_of_past_layout`).

* `StateMachine.LeavesPanel`: told of a load, the machine first of all shows another layer.  Then
  the panel is in order after every load (`Keyboard.panelInOrder_load`) and hence after every run.
  The basic and the extended machine are of this kind.
* `Keyboard.panel_of_selection` says for every machine when the panel shows what it ought to.
-/

namespace SoftKeyboard

open Relation Dispatcher

/-! ### Machines that leave the panel -/

/-- Told of a load, the machine first of all shows a layer other than the emoji panel. -/
def StateMachine.LeavesPanel {σ : Type} (m : StateMachine σ) : Prop :=
  ∀ c position d,
    ∃ s rest, (m.react .load c position).selections d = s :: rest ∧ s.layer ≠ .emoji

namespace StateMachine

/-- A machine that goes to the alphabet leaves the panel. -/
theorem leavesPanel_of_loadsHome {m : StateMachine Layer} (h : m.LoadsHome) : m.LeavesPanel := by
  intro c position d
  rw [h]
  refine ⟨_, _, rfl, ?_⟩
  rcases isHome_alphabetFor c.flags with ht | ht <;> rw [ht] <;> exact fun h => nomatch h

theorem leavesPanel_basic : basic.LeavesPanel := leavesPanel_of_loadsHome loadsHome_basic

theorem leavesPanel_extended : extended.LeavesPanel := leavesPanel_of_loadsHome loadsHome_extended

end StateMachine

/-- A program that first of all shows another layer puts the panel in order, and finds it so
whenever it selects it. -/
theorem Program.panelInOrder_run {α : Type} {p : Program α} {d : Dispatcher} (hd : d.Settled)
    (hl : d.layout ≠ none)
    (hfirst : ∃ s rest, p.selections d = s :: rest ∧ s.layer ≠ .emoji) :
    (p.run d).2.PanelInOrder ∧ ∀ s ∈ p.selections d, s.layer = .emoji → s.finds.PanelInOrder := by
  induction p generalizing d with
  | done value =>
    obtain ⟨s, rest, h, -⟩ := hfirst
    cases h
  | select layer next ih =>
    obtain ⟨s, rest, h, hne⟩ := hfirst
    obtain ⟨rfl, -⟩ := List.cons.inj h
    obtain ⟨layout, hl⟩ := Option.ne_none_iff_exists'.1 hl
    -- whatever panel there was, it is off the screen now
    have horder : (d.select layer).2.PanelInOrder :=
      ⟨lifeCycle_settled.everyView_request hd (.select d layer),
        panelFits_of_panel?_eq_none (panel?_select_of_ne hl hne)⟩
    refine ⟨horder.requests (run_requests _ _), fun s hs he => ?_⟩
    rcases List.mem_cons.1 hs with rfl | hs
    · exact absurd he hne
    · exact horder.requests (requests_of_mem_selections hs)
  | requestShift c next ih =>
    exact ih (lifeCycle_settled.everyView_request hd (.queue d (d.pending ++ [c]))) hl hfirst
  | setTimer running next ih =>
    exact ih (lifeCycle_settled.everyView_request hd (.setTimer d running)) hl hfirst
  | timerRunning next ih => exact ih d.timerRunning hd hl hfirst
  | note notice next ih =>
    exact ih (lifeCycle_settled.everyView_request hd (.note d [notice])) hl hfirst

namespace Keyboard

section

variable {σ : Type} {a : Assembly σ} {k : Keyboard σ}

/-! ### Loads -/

/-- Told of a load, a machine that leaves the panel puts it in order. -/
theorem panelInOrder_drive_load (hm : a.machine.LeavesPanel) (hd : k.dispatcher.Settled)
    (hl : k.dispatcher.layout ≠ none) (c : Capitalization) :
    (drive a k .load c).2.dispatcher.PanelInOrder ∧
      ∀ s ∈ driveSelections a ⟨k, .load, c⟩, s.layer = .emoji → s.finds.PanelInOrder := by
  obtain ⟨horder, hselections⟩ :=
    Program.panelInOrder_run hd hl (hm c k.position k.dispatcher)
  refine ⟨horder.requests (replay_requests a (react a k .load c).2 maxReplays), fun s hs he => ?_⟩
  rcases List.mem_append.1 hs with hs | hs
  · exact hselections s hs he
  · exact horder.requests (requests_of_mem_updates hs)

/-- **A load keeps the panel in order**, if the machine leaves it. -/
theorem panelInOrder_load (hm : a.machine.LeavesPanel) (h : k.dispatcher.PanelInOrder)
    (request : LoadRequest) (settings : Settings) :
    (load a k request settings).2.dispatcher.PanelInOrder ∧
      ∀ s ∈ loadSelections a k request settings, s.layer = .emoji → s.finds.PanelInOrder := by
  have hd := h.settled.of_sameViews
    (k.dispatcher.sameViews_prepare a.toEnvironment request.editor settings)
  rw [load_eq]
  unfold loadSelections
  rcases k.dispatcher.prepare_cases a.toEnvironment request.editor settings with
    ⟨hl, theme, builds, notices, hp⟩ | ⟨e, theme, builds, notices, hp⟩
  · -- layout and texts may have been replaced behind the panel, but the machine is told next
    rw [hp] at hd
    obtain ⟨d, hd, hl, hp⟩ : ∃ d : Dispatcher, d.Settled ∧ d.layout ≠ none ∧
      k.dispatcher.prepare a.toEnvironment request.editor settings = (.ok (), d) := ⟨_, hd, hl, hp⟩
    rw [hp]
    exact panelInOrder_drive_load (k := k.withDispatcher d) hm hd hl request.capitalization
  · rw [hp] at hd ⊢
    exact ⟨⟨hd, h.fits.mono (.inl rfl) (.inl rfl) rfl⟩, fun _ hs => nomatch hs⟩

/-! ### Operations -/

theorem panelInOrder_drive (h : k.dispatcher.PanelInOrder) (callback : Callback)
    (c : Capitalization) : (drive a k callback c).2.dispatcher.PanelInOrder :=
  h.requests (drive_requests a k callback c)

theorem panelInOrder_selectPane (h : k.dispatcher.PanelInOrder) (layer : Layer) :
    (k.selectPane layer).2.dispatcher.PanelInOrder := by
  rw [dispatcher_selectPane]
  exact h.requests (k.select_requests layer)

theorem panelFits_toggleEmoji (hm : a.machine.LeavesPanel) (h : k.dispatcher.PanelInOrder)
    (request : LoadRequest) : (toggleEmoji a k request).2.dispatcher.PanelFits := by
  have hl := (panelInOrder_load hm h request k.dispatcher.live).1
  unfold toggleEmoji
  split_ifs
  · split <;> rename_i hload <;> rw [hload] at hl
    · exact hl.fits
    · exact (panelInOrder_selectPane hl .emoji).fits
  · exact (panelInOrder_selectPane h .alphabet).fits
  · exact (panelInOrder_selectPane h .emoji).fits

theorem panelFits_save (a : Assembly σ) (h : k.dispatcher.PanelFits) :
    (k.save a).dispatcher.PanelFits := by
  rcases save_cases a k with ⟨-, hs⟩ | ⟨layer, notices, position, signals, -, hs⟩ <;> rw [hs]
  · exact h
  · exact h.of_sameViews ⟨rfl, rfl⟩ (.inl rfl) rfl

theorem panelFits_restore (h : k.dispatcher.PanelInOrder) : k.restore.2.dispatcher.PanelFits := by
  rcases restore_cases k with ⟨-, hr⟩ | ⟨layer, -, ⟨e, -, hr⟩ | ⟨-, notices, hr⟩⟩ <;> rw [hr]
  · exact h.fits
  · exact h.fits.select h.settled layer
  · exact (h.fits.select h.settled layer).of_sameViews ⟨rfl, rfl⟩ (.inl rfl) rfl

theorem panelFits_requestShift (h : k.dispatcher.PanelInOrder) (c : Capitalization) :
    (k.requestShift a c).dispatcher.PanelFits := by
  have hd := panelInOrder_drive (a := a) h (.input .updateShift) c
  unfold requestShift
  split <;> rename_i hr <;> rw [hr] at hd
  · exact hd.fits
  · exact hd.fits.of_sameViews ⟨rfl, rfl⟩ (.inl rfl) rfl

/-- **An operation keeps the panel in order**, if the machine leaves it when it is told of a
load. -/
theorem panelInOrder_perform (hm : a.machine.LeavesPanel) (h : k.dispatcher.PanelInOrder)
    (operation : Operation) : (k.perform a operation).2.dispatcher.PanelInOrder := by
  refine ⟨lifeCycle_settled.everyView_of_moves h.settled (perform_moves a k operation), ?_⟩
  cases operation with
  | command command =>
    cases command with
    | updateTheme id => exact h.fits.updateTheme a.toEnvironment id
    | load request settings => exact (panelInOrder_load hm h request settings).1.fits
    | toggleEmoji request => exact panelFits_toggleEmoji hm h request
    | createView hardwareAcceleration => exact panelFits_createView _ _ hardwareAcceleration
    | destroyView => exact panelFits_destroyView k.dispatcher
    | releaseResources => exact panelFits_releaseResources k.dispatcher
    | hideWindow => exact h.fits.hideWindow
    | save => exact panelFits_save a h.fits
    | restore => exact panelFits_restore h
    | input i c => exact (panelInOrder_drive h (.input i) c).fits
  | select layer => exact h.fits.select h.settled layer
  | requestShift c => exact panelFits_requestShift h c
  | setTimer running => exact h.fits.request h.settled (.setTimer k.dispatcher running)
  | publish settings => exact h.fits.of_sameViews ⟨rfl, rfl⟩ (.inl rfl) rfl
  | setMoreKeys showing => exact h.fits.setMoreKeys showing

theorem panelInOrder_performAll (hm : a.machine.LeavesPanel) (h : k.dispatcher.PanelInOrder)
    (operations : List Operation) : (k.performAll a operations).dispatcher.PanelInOrder := by
  induction operations generalizing k with
  | nil => exact h
  | cons operation operations ih => exact ih (panelInOrder_perform hm h operation)

/-- A selection of the panel finds it in order, if the machine leaves it when it is told of a
load. -/
theorem panelInOrder_of_mem_selections (hm : a.machine.LeavesPanel)
    (h : k.dispatcher.PanelInOrder) {operation : Operation} {s : Selection}
    (hs : s ∈ selections a k operation) (he : s.layer = .emoji) : s.finds.PanelInOrder := by
  rcases mem_selections_cases hs with ⟨request, settings, -, hload | hload⟩ | hr
  · exact (panelInOrder_load hm h request settings).2 s hload he
  · rw [hload]
    exact (panelInOrder_load hm h request settings).1
  · exact h.requests hr

/-! ### All runs -/

/-- **What the emoji panel shows.**  In every run, a selection of the emoji panel that succeeds, be
it of the host or of the state machine, leaves the panel running and visible.  It shows what the
layout and the language of its subtype ask for exactly if it was not running and visible before, or
showed that already.  It always does if the machine, told of a load, shows another layer first. -/
theorem panel_of_selection (catalog : Catalog) (display : Display) (listening : Bool)
    (machine : StateMachine σ) (live : Settings) (position : σ) (operations : List Operation)
    (operation : Operation) :
    let a : Assembly σ := ⟨.ofCatalog catalog display listening, machine⟩
    let k := (start live position).performAll a operations
    ∀ s ∈ selections a k operation, s.layer = .emoji → s.outcome = .ok () →
      ∃ layout view, s.after.layout = some layout ∧ s.after.screen = some view ∧
        s.after.visible? = some .emoji ∧ view.record.emojiVisible = true ∧
        view.record.emojiRunning = true ∧
        ∀ language, Locale.languageOf layout.configuration.subtype.locale = .ok language →
          (view.record.panel = layout.panel (.ofSubtag language) ↔
            s.finds.panel? = none ∨ s.finds.panel? = some (layout.panel (.ofSubtag language))) ∧
          (machine.LeavesPanel → view.record.panel = layout.panel (.ofSubtag language)) := by
  intro a k s hs he hok
  have henv : a.toEnvironment.Steady := Environment.steady_ofCatalog catalog display listening
  have hmoves : ReflTransGen (Move a.toEnvironment) (start live position).dispatcher s.finds :=
    (performAll_moves a (start live position) operations).trans (moves_of_mem_selections hs)
  have hsettled : s.finds.Settled :=
    lifeCycle_settled.everyView_of_moves (everyView_start _ _ live position) hmoves
  have hvoiced : s.finds.Voiced := of_moves (Voiced.move henv) (fun _ _ h _ => (by cases h)) hmoves
  have hfits (hm : machine.LeavesPanel) : s.finds.PanelFits := by
    have hstart : (start live position).dispatcher.PanelInOrder :=
      ⟨everyView_start _ _ live position, panelFits_of_panel?_eq_none rfl⟩
    exact (panelInOrder_of_mem_selections hm (panelInOrder_performAll hm hstart operations) hs
      he).fits
  have hviews : s.after.EveryView (fun v => v.InStep ∧ v.record.Exclusive) Record.Exclusive :=
    lifeCycle_exclusive.everyView_of_moves (everyView_start _ _ live position)
      (hmoves.tail (.request (.select s.finds s.layer)))
  obtain ⟨finds, layer⟩ := s
  obtain rfl : layer = .emoji := he
  obtain ⟨hl, hscreen⟩ := (finds.select_eq_ok_iff .emoji).1 hok
  obtain ⟨layout, hl⟩ := Option.ne_none_iff_exists'.1 hl
  -- the panel is the one that was there, or a new one
  have hpanel := panel?_select_emoji hsettled hl hscreen
  obtain ⟨view, hview, hvisible, hstarted, hshows⟩ := exists_of_panel?_eq_some hpanel
  have hstep := (hviews.attached view hview).1
  refine ⟨layout, view, (finds.sameHoldings_select .emoji).layout.trans hl, hview, ?_, ?_, ?_, ?_⟩
  · exact (congrArg (Option.map fun v : Screen => v.presenter.visible) hview).trans
      (congrArg some hvisible)
  · rw [hstep.emoji, hvisible]
    rfl
  · rw [hstep.running, hstarted]
  · intro language hlanguage
    have hspeaks := hvoiced layout language hl hlanguage
    rw [hspeaks] at hshows
    constructor
    · rw [hshows]
      cases finds.panel? with
      | none => exact iff_of_true rfl (.inl rfl)
      | some panel => simp
    · intro hm
      rw [hshows]
      cases hfound : finds.panel? with
      | none => rfl
      | some panel =>
        rw [← hspeaks]
        exact hfits hm layout panel hl hfound

end

/-- The basic machine shows the alphabet when the Russian layout is loaded behind the English panel,
and the panel speaks Russian when it is selected again. -/
theorem panel_of_selection_after_russian :
    let a : Assembly Layer := ⟨.ofCatalog .bare {} false, .basic⟩
    let k := (start {} .alphabet).performAll a
      [.command (.createView false), .command (.toggleEmoji {}),
        .command (.load {} { subtype := ⟨"ru_RU", "qwerty"⟩ })]
    ∃ view, (k.perform a (.select .emoji)).2.dispatcher.screen = some view ∧
      view.record.emojiRunning = true ∧ view.record.emojiLabel = some "АБВ" := by
  intro a k
  let s : Selection := ⟨k.dispatcher, .emoji⟩
  have hok : s.outcome = .ok () := eq_ok_of_toOption (by decide +kernel)
  have hlocale : s.after.configuration?.map (fun c => c.subtype.locale) = some "ru_RU" := by
    decide +kernel
  have hlanguage : Locale.languageOf "ru_RU" = .ok "ru" := eq_ok_of_toOption (by decide +kernel)
  obtain ⟨layout, view, hl, hview, -, -, hrunning, hpanel⟩ := panel_of_selection .bare {} false
    .basic {} .alphabet [.command (.createView false), .command (.toggleEmoji {}),
      .command (.load {} { subtype := ⟨"ru_RU", "qwerty"⟩ })] (.select .emoji) s
    (List.mem_singleton.2 rfl) rfl hok
  rw [configuration?, hl] at hlocale
  have hfits := (hpanel "ru" ((congrArg _ (Option.some.inj hlocale)).trans hlanguage)).2
    StateMachine.leavesPanel_basic
  exact ⟨view, hview, hrunning, congrArg Panel.label hfits⟩

/-- A machine that selects the emoji panel at every load leaves the English panel on the screen when
the Russian layout is loaded. -/
theorem panel_of_past_layout :
    let a : Assembly Unit :=
      ⟨.ofCatalog .bare {} false, ({ load := [.select .emoji] } : Rules).machine⟩
    let k := (start {} ()).performAll a [.command (.createView false), .command (.load {} {})]
    let russian : Operation := .command (.load {} { subtype := ⟨"ru_RU", "qwerty"⟩ })
    let d := (k.perform a russian).2.dispatcher
    (k.perform a russian).1.error? = none ∧
      (∃ s ∈ selections a k russian, s.layer = .emoji ∧ s.outcome = .ok ()) ∧
      d.configuration?.map (fun c => c.subtype.locale) = some "ru_RU" ∧
      Locale.languageOf "ru_RU" = .ok "ru" ∧ Label.toAlphabet.text (.ofSubtag "ru") = "АБВ" ∧
      d.panel?.map Panel.label = some (some "ABC") := by
  intro a k russian d
  refine ⟨by decide +kernel, ?_, by decide +kernel, eq_ok_of_toOption (by decide +kernel), rfl,
    by decide +kernel⟩
  have hany : (selections a k russian).any
      (fun s => s.layer = .emoji && s.outcome.toOption = some ()) = true := by
    decide +kernel
  obtain ⟨s, hs, h⟩ := List.any_eq_true.1 hany
  rw [Bool.and_eq_true, decide_eq_true_eq, decide_eq_true_eq] at h
  exact ⟨s, hs, h.1, eq_ok_of_toOption h.2⟩

end Keyboard

end SoftKeyboard
