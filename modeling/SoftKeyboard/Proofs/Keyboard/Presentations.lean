import Mathlib.Algebra.FreeMonoid.Basic
import SoftKeyboard.Proofs.Keyboard.Availability
import SoftKeyboard.Proofs.Keyboard.Tally

/-!
# Presentations are never stale

A presentation is derived anew whenever a variant is shown, from the settings that are live then.

* `Operation.liveAfter`: the live settings are those that were published last, whatever settings
  layouts were loaded under (`Keyboard.live_performAll`), and all selections of an operation find
  the same (`Keyboard.live_of_mem_selections`).
* `Presentation.Reflects` says of each parameter what the settings make of it, and so fixes the
  presentation (`Presentation.reflects_iff`).
* `Selection.presentation?` is what a selection presents.  The presentations that a view was given
  are a tally of the selections made on it (`Keyboard.tally_presentations`), so none is left out and
  none comes from elsewhere.
* `Record.Presents`: the record of a view holds the last of them, and their number.

`Keyboard.presentation_of_selections` puts them together.
-/

namespace SoftKeyboard

open Relation Dispatcher

/-! ### Live settings -/

namespace Operation

/-- The settings that an operation publishes. -/
def published? : Operation → Option Settings
  | publish settings => some settings
  | _ => none

/-- The live settings after operations: those that were published last. -/
def liveAfter (live : Settings) (operations : List Operation) : Settings :=
  (operations.filterMap published?).getLast?.getD live

theorem liveAfter_cons (live : Settings) (operation : Operation) (operations : List Operation) :
    liveAfter live (operation :: operations) =
      liveAfter (operation.published?.getD live) operations := by
  unfold liveAfter
  rw [List.filterMap_cons]
  cases operation.published? with
  | none => rfl
  | some settings => rw [List.getLast?_cons, Option.getD_some, Option.getD_some]

end Operation

namespace Keyboard

variable {σ : Type} (a : Assembly σ)

/-- Nothing that an operation begins with changes the live settings, unless it is to publish
some. -/
theorem live_opening (k : Keyboard σ) (operation : Operation) :
    (opening a k operation).live = operation.published?.getD k.dispatcher.live := by
  have hprepare : ∀ editor settings,
      (k.dispatcher.prepare a.toEnvironment editor settings).2.live = k.dispatcher.live := by
    intro editor settings
    rcases k.dispatcher.prepare_cases a.toEnvironment editor settings with
      ⟨-, theme, builds, notices, h⟩ | ⟨e, theme, builds, notices, h⟩ <;> rw [h]
  cases operation with
  | command command =>
    cases command with
    | updateTheme id =>
      rcases k.dispatcher.updateTheme_cases a.toEnvironment id with ⟨notices, h⟩ | ⟨notices, h⟩ <;>
        exact congrArg (fun r => r.2.live) h
    | load request settings => exact hprepare request.editor settings
    | toggleEmoji request =>
      unfold opening
      split_ifs
      · exact hprepare request.editor k.dispatcher.live
      · rfl
    | createView hardwareAcceleration =>
      obtain ⟨notices, h⟩ := k.dispatcher.createView_eq a.toEnvironment hardwareAcceleration
      exact congrArg (fun r => r.2.live) h
    | destroyView =>
      obtain ⟨notices, h⟩ := k.dispatcher.destroyView_eq
      exact congrArg (fun r => r.2.live) h
    | releaseResources =>
      obtain ⟨screen, notices, h⟩ := k.dispatcher.exists_releaseResources_eq
      show k.dispatcher.releaseResources.live = k.dispatcher.live
      rw [h]
    | hideWindow => rfl
    | save =>
      obtain ⟨saved, notices, h⟩ := k.dispatcher.exists_save_eq
      show k.dispatcher.save.2.live = k.dispatcher.live
      rw [h]
    | restore => rfl
    | input i c => rfl
  | select layer => rfl
  | requestShift c => rfl
  | setTimer running => rfl
  | publish settings => rfl
  | setMoreKeys showing =>
    obtain ⟨screen, retired, h⟩ := k.dispatcher.exists_setMoreKeys_eq showing
    show (k.dispatcher.setMoreKeys showing).2.live = k.dispatcher.live
    rw [h]

theorem live_perform (k : Keyboard σ) (operation : Operation) :
    (k.perform a operation).2.dispatcher.live =
      operation.published?.getD k.dispatcher.live := by
  rw [← live_opening a]
  exact (perform_passes a k operation).keeps (fun _ _ h => h.live_eq)
    fun d layer => (d.sameHoldings_select layer).live

/-- **The live settings are those that were published last.** -/
theorem live_performAll (k : Keyboard σ) (operations : List Operation) :
    (k.performAll a operations).dispatcher.live =
      Operation.liveAfter k.dispatcher.live operations := by
  induction operations generalizing k with
  | nil => rfl
  | cons operation operations ih =>
    rw [Operation.liveAfter_cons, ← live_perform a]
    exact ih (k.perform a operation).2

variable {a}

/-- All selections of an operation find the settings that were live before it. -/
theorem live_of_mem_selections {k : Keyboard σ} {operation : Operation} {s : Selection}
    (h : s ∈ selections a k operation) : s.finds.live = k.dispatcher.live := by
  have hfinds : s.finds.live = (opening a k operation).live :=
    (perform_passes a k operation).keeps_finds (fun _ _ h => h.live_eq)
      (fun d layer => (d.sameHoldings_select layer).live) h
  rw [hfinds, live_opening]
  -- what publishes settings selects nothing
  cases operation with
  | publish settings => cases h
  | _ => rfl

end Keyboard

/-! ### What presentations are made of -/

/-- A presentation shows a variant, after another one or as the first, the way that settings ask
for. -/
structure Presentation.Reflects (p : Presentation) (settings : Settings) (v : Variant)
    (previous : Option Variant) : Prop where
  previewPopup : p.previewPopup = settings.previewPopup
  previewDismissMs : p.previewDismissMs = settings.previewDismissMs
  customAnimation : p.customAnimation = true ↔ settings.previewAnimation ≠ none
  animation : p.animation = settings.previewAnimation.getD {}
  shortcutReady : p.shortcutReady = settings.shortcutReady
  subtypeChanged : p.subtypeChanged = true ↔ ∀ w, previous = some w → w.subtype ≠ v.subtype
  spacebar : p.spacebar =
    if v.subtype.language = "zz" then .fullLocale
    else if settings.enabledSubtypes.length < 2 ∧
      settings.systemLanguage = v.subtype.language then .none
    else if 1 < settings.enabledSubtypes.countP fun other =>
      other.language = v.subtype.language ∧ other.layout = v.subtype.layout then .fullLocale
    else .languageOnly
  multipleInputMethods : p.multipleInputMethods = true ↔
    settings.multipleInputMethods = true ∨ 1 < settings.enabledSubtypes.length

namespace Presentation

variable {settings : Settings} {v : Variant} {previous : Option Variant}

theorem reflects_derive (settings : Settings) (v : Variant) (previous : Option Variant) :
    (derive settings v previous).Reflects settings v previous where
  previewPopup := rfl
  previewDismissMs := rfl
  customAnimation := Option.isSome_iff_ne_none
  animation := rfl
  shortcutReady := rfl
  subtypeChanged := by
    show Option.all _ _ = true ↔ _
    rw [Option.all_eq_true]
    exact forall₂_congr fun w _ => decide_eq_true_iff
  spacebar := by
    simp [derive, SpacebarLabel.forSubtype, InputSubtype.hasNoLanguage,
      List.countP_eq_length_filter]
  multipleInputMethods := by
    show (_ || _) = true ↔ _
    rw [Bool.or_eq_true, decide_eq_true_iff]

/-- **There is one such presentation.** -/
theorem reflects_iff {p : Presentation} :
    p.Reflects settings v previous ↔ p = derive settings v previous := by
  constructor
  · intro h
    have h' := reflects_derive settings v previous
    have hanimation := Bool.eq_iff_iff.2 (h.customAnimation.trans h'.customAnimation.symm)
    have hsubtype := Bool.eq_iff_iff.2 (h.subtypeChanged.trans h'.subtypeChanged.symm)
    have hmethods := Bool.eq_iff_iff.2 (h.multipleInputMethods.trans h'.multipleInputMethods.symm)
    obtain ⟨popup, dismiss, custom, animation, shortcut, changed, spacebar, methods⟩ := p
    rw [derive, mk.injEq]
    exact ⟨h.previewPopup, h.previewDismissMs, hanimation, h.animation, h.shortcutReady, hsubtype,
      h.spacebar.trans h'.spacebar.symm, hmethods⟩
  · rintro rfl
    exact reflects_derive settings v previous

end Presentation

/-! ### What records hold of presentations -/

/-- The presentations that a view was given, the oldest first. -/
def Record.presentations (r : Record) : List Presentation := (Traffic.of r.calls).presented

/-- The record of a view holds the last presentation that the view was given, and their number. -/
structure Record.Presents (r : Record) : Prop where
  presentation : r.presentation = r.presentations.getLast?
  presented : r.presented = r.presentations.length

theorem Record.Presents.applyAll {r : Record} (h : r.Presents) (calls : List SinkCall) :
    (r.applyAll calls).Presents where
  presentation := by
    rw [presentation_applyAll, presentations, traffic_applyAll, Traffic.append,
      List.getLast?_append, h.presentation]
    rfl
  presented := by
    rw [presented_applyAll, presentations, traffic_applyAll, Traffic.append, List.length_append,
      h.presented]
    rfl

theorem lifeCycle_presents : LifeCycle (fun s => s.record.Presents) Record.Presents where
  attach _ _ _ _ := Record.Presents.applyAll ⟨rfl, rfl⟩ _
  change s s' h hc := by
    cases hc with
    | showMain v presentation collapse => exact h.applyAll _
    | showEmoji label look icons => exact h.applyAll _
    | releaseResources => exact h.applyAll _
    | hideWindow => exact h.applyAll _
    | setTimer running => exact ⟨h.presentation, h.presented⟩
    | setMoreKeys showing => exact ⟨h.presentation, h.presented⟩
  close _ h := h.applyAll _
  setMoreKeys _ _ h := ⟨h.presentation, h.presented⟩

namespace Screen

variable (t : Screen)

theorem presentations_showMain (v : Variant) (p : Presentation) (collapse : Bool) :
    (t.showMain v p collapse).1.record.presentations = t.record.presentations ++ [p] := by
  show (Traffic.of (t.record.applyAll (t.presenter.showMain v p collapse).2).calls).presented = _
  rw [Record.traffic_applyAll, Presenter.traffic_showMain]
  rfl

theorem presented_showMain (v : Variant) (p : Presentation) (collapse : Bool) :
    (t.showMain v p collapse).1.record.presented = t.record.presented + 1 := by
  show (t.record.applyAll (t.presenter.showMain v p collapse).2).presented = _
  rw [Record.presented_applyAll, Presenter.traffic_showMain]
  rfl

theorem presentations_showEmoji (label : String) (look : Look) (icons : IconSet) :
    (t.showEmoji label look icons).1.record.presentations = t.record.presentations := by
  show (Traffic.of
    (t.record.applyAll (t.presenter.showEmoji label look icons).2).calls).presented = _
  rw [Record.traffic_applyAll, Presenter.traffic_showEmoji]
  exact List.append_nil _

theorem presentations_close : t.close.1.presentations = t.record.presentations := by
  show (Traffic.of (t.record.applyAll t.presenter.closingCalls).calls).presented = _
  rw [Record.traffic_applyAll, Presenter.traffic_closingCalls]
  exact List.append_nil _

variable {t}

/-- Only to show a variant presents something. -/
theorem Upkeep.presentations {t' : Screen} (h : t.Upkeep t') :
    t'.record.presentations = t.record.presentations := by
  cases h with
  | releaseResources =>
    show (Traffic.of (t.record.applyAll t.presenter.releaseResources.2).calls).presented = _
    rw [Record.traffic_applyAll, Presenter.traffic_releaseResources]
    exact List.append_nil _
  | hideWindow =>
    show (Traffic.of (t.record.applyAll [.hideWindow]).calls).presented = _
    rw [Record.traffic_applyAll]
    exact List.append_nil _
  | setTimer running => rfl
  | setMoreKeys showing => rfl

end Screen

/-! ### What selections present -/

namespace Selection

variable {s : Selection} {t t' : Screen}

/-- What a selection presents on the attached view: nothing if it shows the emoji panel or fails. -/
def presentation? (s : Selection) : Option Presentation :=
  match s.finds.layout, s.finds.screen with
  | some layout, some t =>
    if s.layer = .emoji then none
    else some (.derive s.finds.live (layout.get s.layer) t.presenter.variant)
  | _, _ => none

/-- The selection succeeds, and it is not of the emoji panel. -/
def ShowsMain (s : Selection) : Prop := s.layer ≠ .emoji ∧ s.outcome = .ok ()

instance (s : Selection) : Decidable s.ShowsMain := inferInstanceAs (Decidable (_ ∧ _))

/-- A selection that succeeds shows the layout's variant of its layer, with the presentation that
the live settings make of it. -/
theorem ShowsMain.exists_after (h : s.ShowsMain) :
    ∃ layout t, s.finds.layout = some layout ∧ s.finds.screen = some t ∧
      let p : Presentation := .derive s.finds.live (layout.get s.layer) t.presenter.variant
      s.presentation? = some p ∧
        s.after.screen =
          some (t.showMain (layout.get s.layer) p s.finds.live.hardwareKeyboard).1 := by
  obtain ⟨hne, hok⟩ := h
  obtain ⟨hl, hs⟩ := (s.finds.select_eq_ok_iff s.layer).1 hok
  obtain ⟨layout, hl⟩ := Option.ne_none_iff_exists'.1 hl
  obtain ⟨t, ht⟩ := Option.ne_none_iff_exists'.1 hs
  refine ⟨layout, t, hl, ht, ?_, ?_⟩
  · unfold presentation?
    rw [hl, ht]
    exact if_neg hne
  · rw [after, select_of_eq_some s.layer hl ht]
    unfold selectOn
    rw [if_neg hne]
    rfl

/-- Any other selection presents nothing. -/
theorem presentation?_eq_none (h : ¬s.ShowsMain) : s.presentation? = none := by
  unfold presentation?
  split
  · rename_i layout t hl ht
    have hok : s.outcome = .ok () := by rw [outcome, select_of_eq_some s.layer hl ht]
    exact if_pos (Decidable.of_not_not fun hne => h ⟨hne, hok⟩)
  · rfl

/-- **A selection adds what it presents** to the presentations of the attached view. -/
theorem presentations_after (ht : s.finds.screen = some t) (ht' : s.after.screen = some t') :
    t'.record.presentations = t.record.presentations ++ s.presentation?.toList := by
  by_cases h : s.ShowsMain
  · obtain ⟨layout, t₀, -, ht₀, hp, hafter⟩ := h.exists_after
    obtain rfl := Option.some.inj (ht.symm.trans ht₀)
    obtain rfl := Option.some.inj (hafter.symm.trans ht')
    rw [hp]
    exact t.presentations_showMain ..
  · -- it fails, or shows the emoji panel, which is given no presentation
    rw [presentation?_eq_none h, Option.toList_none, List.append_nil]
    cases hl : s.finds.layout with
    | none =>
      rw [after, select_of_layout_eq_none s.layer hl] at ht'
      obtain rfl := Option.some.inj (ht.symm.trans ht')
      rfl
    | some layout =>
      have hok : s.outcome = .ok () := by rw [outcome, select_of_eq_some s.layer hl ht]
      have he : s.layer = .emoji := Decidable.of_not_not fun hne => h ⟨hne, hok⟩
      rw [after, select_of_eq_some s.layer hl ht] at ht'
      unfold selectOn at ht'
      rw [if_pos he] at ht'
      obtain rfl := Option.some.inj ht'
      exact t.presentations_showEmoji ..

/-- The selections of variants that succeed on a view. -/
def shownOn (view : Nat) (selections : List Selection) : List Selection :=
  selections.filter fun s => s.On view ∧ s.ShowsMain

/-- What selections present on a view, as a list that grows with each of them. -/
theorem map_total_presentation? (view : Nat) (selections : List Selection) :
    (FreeAddMonoid.toList
      (total (fun s => FreeAddMonoid.ofList s.presentation?.toList) view selections)).map some =
      (shownOn view selections).map presentation? := by
  induction selections with
  | nil => rfl
  | cons s selections ih =>
    unfold total at ih ⊢
    rw [List.map_cons, List.sum_cons, FreeAddMonoid.toList_add, List.map_append, ih]
    by_cases h : s.On view ∧ s.ShowsMain
    · obtain ⟨layout, t, -, -, hp, -⟩ := h.2.exists_after
      have hshown : shownOn view (s :: selections) = s :: shownOn view selections :=
        List.filter_cons_of_pos (decide_eq_true h)
      rw [hshown, if_pos h.1, List.map_cons, FreeAddMonoid.toList_ofList, hp]
      rfl
    · have hshown : shownOn view (s :: selections) = shownOn view selections :=
        List.filter_cons_of_neg fun hs => h (of_decide_eq_true hs)
      rw [hshown]
      -- it is made on another view, or presents nothing
      by_cases hon : s.On view
      · rw [if_pos hon, FreeAddMonoid.toList_ofList,
          presentation?_eq_none fun hs => h ⟨hon, hs⟩]
        rfl
      · rw [if_neg hon]
        rfl

end Selection

namespace Keyboard

variable {σ : Type}

/-- The presentations that a view is given: none for a fresh view, and from then on what the
selections on it present. -/
theorem tally_presentations :
    Tally (fun r => FreeAddMonoid.ofList r.presentations) 0
      (fun s => FreeAddMonoid.ofList s.presentation?.toList) where
  attach _ _ _ _ := rfl
  upkeep hu := congrArg FreeAddMonoid.ofList hu.presentations
  close t := congrArg FreeAddMonoid.ofList t.presentations_close
  setMoreKeys _ _ := rfl
  select _ _ _ ht ht' := congrArg FreeAddMonoid.ofList (Selection.presentations_after ht ht')

/-! ### All runs -/

/-- **Presentations are never stale.**  After every run:

* whenever an operation selects a layer of the main surface and succeeds, the attached view is given
  a presentation of the layout's variant that reflects the settings published last, and the variant
  that the view had until then; the frame is visible then exactly if those settings report no
  hardware keyboard;
* the presentations that a view was given are those of such selections made while it was attached,
  and its record holds the last of them and their number. -/
theorem presentation_of_selections (a : Assembly σ) (live : Settings) (position : σ)
    (operations : List Operation) :
    let k₀ := start live position
    let k := k₀.performAll a operations
    let current := Operation.liveAfter live operations
    (∀ operation, ∀ s ∈ selections a k operation, s.ShowsMain →
      ∃ layout t t' p, s.finds.layout = some layout ∧ s.finds.screen = some t ∧
        s.after.screen = some t' ∧ t'.view = t.view ∧
        s.presentation? = some p ∧ t'.record.presentation = some p ∧
        p.Reflects current (layout.get s.layer) t.record.variant ∧
        t'.record.presented = t.record.presented + 1 ∧
        (t'.record.frameVisible = true ↔ current.hardwareKeyboard = false)) ∧
    ∀ r ∈ k.dispatcher.views,
      let shown := Selection.shownOn r.view (selectionsAll a k₀ operations)
      r.presentations.map some = shown.map Selection.presentation? ∧
        r.presented = shown.length ∧
        r.presentation = shown.getLast?.bind Selection.presentation? := by
  intro k₀ k current
  have hmoves := performAll_moves a k₀ operations
  constructor
  · intro operation s hs hshows
    -- the settings that the selection reads are those before the operation
    have hlive : s.finds.live = current :=
      (live_of_mem_selections hs).trans (live_performAll a k₀ operations)
    have hviews : s.finds.EveryView _ _ :=
      lifeCycle_exclusive.everyView_of_moves (everyView_start _ _ live position)
        (hmoves.trans (moves_of_mem_selections hs))
    obtain ⟨layout, t, hl, ht, hp, hafter⟩ := hshows.exists_after
    have hstep : t.InStep := (hviews.attached t ht).1
    rw [hlive, ← hstep.variant] at hp hafter
    refine ⟨layout, t, _, _, hl, ht, hafter, t.record.view_applyAll _, hp,
      t.presentation_showMain .., Presentation.reflects_derive .., ?_, ?_⟩
    · exact t.presented_showMain ..
    · rw [(hstep.change (.showMain ..)).frame]
      show (!current.hardwareKeyboard) = true ↔ _
      rw [Bool.not_eq_true']
  · intro r hr shown
    have hpresents : r.Presents :=
      (everyView_performAll lifeCycle_presents a live position operations).views r hr
    have hlist : r.presentations.map some = shown.map Selection.presentation? := by
      have hcount := tally_presentations.count_eq a live position operations r hr
      rw [zero_add] at hcount
      rw [← Selection.map_total_presentation?, ← hcount, FreeAddMonoid.toList_ofList]
    refine ⟨hlist, ?_, ?_⟩
    · rw [hpresents.presented, ← List.length_map some, hlist, List.length_map]
    · have hlast := congrArg List.getLast? hlist
      rw [List.getLast?_map, List.getLast?_map, ← hpresents.presentation] at hlast
      calc r.presentation = (r.presentation.map some).bind id := by
            rw [Option.bind_map]
            exact (Option.bind_fun_some _).symm
        _ = (shown.getLast?.map Selection.presentation?).bind id := by rw [hlast]
        _ = shown.getLast?.bind Selection.presentation? := Option.bind_map ..

/-- The symbols are selected under the settings of the start, and once more after others were
published: without popups, with an animation of the user's own, a shortcut, a second subtype and a
hardware keyboard.  The second selection changes nothing but the presentation, which is another one
in every part except that the subtype is the same, and hides the frame. -/
theorem presentation_of_published :
    let a : Assembly Layer := ⟨.unsplit, .basic⟩
    let chosen : PreviewAnimation := { showMs := 30, dismissMs := 90 }
    let published : Settings :=
      { previewPopup := false, previewDismissMs := 120, previewAnimation := some chosen,
        shortcutReady := true, enabledSubtypes := [{}, ⟨"fr_FR", "azerty"⟩],
        hardwareKeyboard := true }
    let opening : List Operation := [.command (.createView false), .command (.load {} {})]
    let operations : List Operation := opening ++ [.select .symbols, .publish published]
    let k := (start {} .alphabet).performAll a operations
    let first : Selection := ⟨((start {} .alphabet).performAll a opening).dispatcher, .symbols⟩
    let second : Selection := ⟨k.dispatcher, .symbols⟩
    (∃ t p, first.after.screen = some t ∧ t.record.presentation = some p ∧
        p.previewPopup = true ∧ p.previewDismissMs = 70 ∧ p.customAnimation = false ∧
        p.animation = {} ∧ p.shortcutReady = false ∧ p.subtypeChanged = false ∧
        p.spacebar = .none ∧ p.multipleInputMethods = false ∧ t.record.frameVisible = true) ∧
      (∃ t p, second.after.screen = some t ∧ t.record.presentation = some p ∧
        p.previewPopup = false ∧ p.previewDismissMs = 120 ∧ p.customAnimation = true ∧
        p.animation = chosen ∧ p.shortcutReady = true ∧ p.subtypeChanged = false ∧
        p.spacebar = .languageOnly ∧ p.multipleInputMethods = true ∧
        t.record.frameVisible = false) ∧
      ∃ r ∈ k.dispatcher.views, r.presented = 2 := by
  intro a chosen published opening operations k first second
  -- both selections show a variant of the subtype that is shown already
  have hshows : ∀ s ∈ [first, second], ∀ {layout}, s.finds.layout = some layout →
      (layout.get s.layer).subtype = {} := by
    have h : ∀ s ∈ [first, second],
        (s.finds.layout.map fun layout => layout.configuration.subtype) = some {} := by
      decide +kernel
    intro s hs layout hl
    have h := h s hs
    rw [hl] at h
    exact Option.some.inj h
  have hfound : ∀ s ∈ [first, second], ∀ {t}, s.finds.screen = some t →
      ∃ w, t.record.variant = some w ∧ w.subtype = {} := by
    have h : ∀ s ∈ [first, second],
        (s.finds.screen.bind fun t => t.record.variant.map Variant.subtype) = some {} := by
      decide +kernel
    intro s hs t ht
    have h := h s hs
    rw [ht] at h
    exact Option.map_eq_some_iff.1 h
  have hcount : (Selection.shownOn 1 (selectionsAll a (start {} .alphabet) operations)).length =
      2 := by
    decide +kernel
  obtain ⟨r, hr, hview⟩ : ∃ r ∈ k.dispatcher.views, r.view = 1 := by decide +kernel
  obtain ⟨hfirst, -⟩ := presentation_of_selections a {} .alphabet opening
  obtain ⟨hsecond, hviews⟩ := presentation_of_selections a {} .alphabet operations
  refine ⟨?_, ?_, ?_⟩
  · obtain ⟨layout, t, t', p, hl, ht, hafter, -, -, hpresentation, hp, -, hframe⟩ :=
      hfirst (.select .symbols) first (List.mem_singleton_self first) ⟨by decide, rfl⟩
    obtain ⟨w, hw, hkept⟩ := hfound first (by simp) ht
    have hsubtype := hshows first (by simp) hl
    refine ⟨t', p, hafter, hpresentation, hp.previewPopup, hp.previewDismissMs, ?_, hp.animation,
      hp.shortcutReady, ?_, ?_, ?_, hframe.2 rfl⟩
    · rw [Bool.eq_false_iff]
      exact fun h => hp.customAnimation.1 h rfl
    · rw [Bool.eq_false_iff]
      exact fun h => hp.subtypeChanged.1 h w hw (hkept.trans hsubtype.symm)
    · rw [hp.spacebar, hsubtype]
      decide
    · rw [Bool.eq_false_iff]
      exact fun h => absurd (hp.multipleInputMethods.1 h) (by decide)
  · obtain ⟨layout, t, t', p, hl, ht, hafter, -, -, hpresentation, hp, -, hframe⟩ :=
      hsecond (.select .symbols) second (List.mem_singleton_self second) ⟨by decide, rfl⟩
    obtain ⟨w, hw, hkept⟩ := hfound second (by simp) ht
    have hsubtype := hshows second (by simp) hl
    refine ⟨t', p, hafter, hpresentation, hp.previewPopup, hp.previewDismissMs,
      hp.customAnimation.2 nofun, hp.animation, hp.shortcutReady, ?_, ?_,
      hp.multipleInputMethods.2 (.inr (by decide)), ?_⟩
    · rw [Bool.eq_false_iff]
      exact fun h => hp.subtypeChanged.1 h w hw (hkept.trans hsubtype.symm)
    · rw [hp.spacebar, hsubtype]
      decide
    · rw [Bool.eq_false_iff]
      exact fun h => absurd (hframe.1 h) (by decide)
  · obtain ⟨-, hpresented, -⟩ := hviews r hr
    rw [hview] at hpresented
    exact ⟨r, hr, hpresented.trans hcount⟩

end Keyboard

end SoftKeyboard
