import SoftKeyboard.Proofs.Dispatcher.Views
import SoftKeyboard.Proofs.Keyboard.Selections

/-!
# The course of an operation

An operation does something of its own first, and then selects layers, one after the other and with
little in between.

* `Keyboard.opening` is what it does first.  No operation but the one that attaches a view adds one
  there, and no view is shown anything (`Keyboard.opening_cases`).
* `Keyboard.perform_passes`: from there the selections of the operation lead to its end, and between
  them there are only asides (`Dispatcher.Aside`).  So the theme and the origins of the views after
  an operation are those after its opening (`Keyboard.theme_perform`, `Keyboard.origins_perform`).
* `Keyboard.performAll_passes`: a whole run passes through its selections, and what it does besides
  shows nothing on any view.
-/

namespace SoftKeyboard

open Relation

namespace Dispatcher

variable {d d' d₁ : Dispatcher}

/-! ### Asides -/

/-- What a state machine makes of a dispatcher without selecting a layer, and what a host does after
its selections. -/
inductive Aside : Dispatcher → Dispatcher → Prop where
  | setTimer (d : Dispatcher) (running : Bool) : Aside d (d.setTimer running)
  | queue (d : Dispatcher) (pending : List Capitalization) : Aside d { d with pending }
  | forget (d : Dispatcher) : Aside d { d with saved := none }
  | note (d : Dispatcher) (notices : List Notice) : Aside d (d.note notices)

theorem Aside.theme_eq (h : Aside d d') : d'.theme = d.theme := by
  cases h <;> rfl

theorem Aside.live_eq (h : Aside d d') : d'.live = d.live := by
  cases h <;> rfl

theorem Aside.viewsStep (h : Aside d d') : ViewsStep Screen.Upkeep d d' := by
  cases h with
  | setTimer running => exact d.viewsStep_map fun s => .setTimer s running
  | queue pending => exact .kept ⟨rfl, rfl⟩
  | forget => exact .kept ⟨rfl, rfl⟩
  | note notices => exact .kept ⟨rfl, rfl⟩

/-- A step in which no view is shown anything: none is added, or a fresh one is attached. -/
def Quiet (d d' : Dispatcher) : Prop := ViewsStep Screen.Upkeep d d' ∨ d.Attaches d'

/-- **Only selections show something**: every other move is quiet. -/
theorem Move.quiet_or_select {env : Environment} (h : Move env d d') :
    d.Quiet d' ∨ ∃ layer, d' = (d.select layer).2 := by
  cases h with
  | request hr =>
    cases hr with
    | select layer => exact .inr ⟨layer, rfl⟩
    | setTimer running => exact .inl (.inl (d.viewsStep_map fun s => .setTimer s running))
    | queue pending => exact .inl (.inl (.kept ⟨rfl, rfl⟩))
    | note notices => exact .inl (.inl (.kept ⟨rfl, rfl⟩))
  | updateTheme id => exact .inl (.inl (.kept (d.sameViews_updateTheme env id)))
  | prepare editor settings => exact .inl (.inl (.kept (d.sameViews_prepare env editor settings)))
  | createView hardwareAcceleration =>
    exact .inl (.inr (attaches_createView env d hardwareAcceleration))
  | destroyView => exact .inl (.inl d.viewsStep_destroyView)
  | releaseResources => exact .inl (.inl d.viewsStep_releaseResources)
  | hideWindow => exact .inl (.inl (d.viewsStep_map .hideWindow))
  | save => exact .inl (.inl (.kept d.sameViews_save))
  | forget => exact .inl (.inl (.kept ⟨rfl, rfl⟩))
  | publish settings => exact .inl (.inl (.kept ⟨rfl, rfl⟩))
  | setMoreKeys showing => exact .inl (.inl (d.viewsStep_setMoreKeys showing))

theorem Quiet.numbered (h : d.Quiet d') (hn : d.Numbered) : d'.Numbered := by
  rcases h with hv | ha
  · exact hn.step hv.change
  · exact hn.attaches ha

theorem Numbered.quiets (hn : d.Numbered) (h : ReflTransGen Quiet d d') : d'.Numbered := by
  induction h with
  | refl => exact hn
  | tail _ hq ih => exact hq.numbered ih

/-! ### Passing through selections -/

/-- One dispatcher leads to another through selections, with nothing but steps of `Q` before,
between and after them. -/
inductive Passes (Q : Dispatcher → Dispatcher → Prop) :
    Dispatcher → List Selection → Dispatcher → Prop where
  | rest {d d' : Dispatcher} (h : ReflTransGen Q d d') : Passes Q d [] d'
  | select {d d' : Dispatcher} {selections : List Selection} (s : Selection)
    (h : ReflTransGen Q d s.finds) (hp : Passes Q s.after selections d') :
    Passes Q d (s :: selections) d'

namespace Passes

variable {Q Q' : Dispatcher → Dispatcher → Prop} {selections more : List Selection}

theorem refl (d : Dispatcher) : Passes Q d [] d := .rest .refl

theorem single (d : Dispatcher) (layer : Layer) : Passes Q d [⟨d, layer⟩] (d.select layer).2 :=
  .select ⟨d, layer⟩ .refl (.refl _)

theorem head (h : ReflTransGen Q d d₁) (hp : Passes Q d₁ selections d') :
    Passes Q d selections d' := by
  cases hp with
  | rest h' => exact .rest (h.trans h')
  | select s h' hp => exact .select s (h.trans h') hp

theorem trans (hp : Passes Q d selections d₁) (hp' : Passes Q d₁ more d') :
    Passes Q d (selections ++ more) d' := by
  induction hp with
  | rest h => exact hp'.head h
  | select s h _ ih => exact .select s h (ih hp')

theorem tail (hp : Passes Q d selections d₁) (h : Q d₁ d') : Passes Q d selections d' := by
  have htrans := hp.trans (.rest (.single h))
  rwa [List.append_nil] at htrans

theorem mono (hQ : ∀ d d', Q d d' → Q' d d') (hp : Passes Q d selections d') :
    Passes Q' d selections d' := by
  induction hp with
  | rest h => exact .rest (ReflTransGen.mono hQ _ _ h)
  | select s h _ ih => exact .select s (ReflTransGen.mono hQ _ _ h) ih

section Keeps

variable {α : Type} {field : Dispatcher → α} (hQ : ∀ d d', Q d d' → field d' = field d)

include hQ

theorem eq_of_steps (h : ReflTransGen Q d d') : field d' = field d := by
  induction h with
  | refl => rfl
  | tail _ hq ih => exact (hQ _ _ hq).trans ih

variable (hselect : ∀ (d : Dispatcher) (layer : Layer), field (d.select layer).2 = field d)

include hselect

/-- What the steps and the selections leave as it is. -/
theorem keeps (hp : Passes Q d selections d') : field d' = field d := by
  induction hp with
  | rest h => exact eq_of_steps hQ h
  | select s h _ ih => exact ih.trans ((hselect s.finds s.layer).trans (eq_of_steps hQ h))

/-- It is what each of the selections finds. -/
theorem keeps_finds {s : Selection} (hp : Passes Q d selections d') (hs : s ∈ selections) :
    field s.finds = field d := by
  induction hp with
  | rest h => cases hs
  | select t h _ ih =>
    have ht : field t.finds = field _ := eq_of_steps hQ h
    rcases List.mem_cons.1 hs with rfl | hs
    · exact ht
    · exact (ih hs).trans ((hselect t.finds t.layer).trans ht)

end Keeps

/-- After the last selection nothing but steps is left. -/
theorem last {s : Selection} (hp : Passes Q d selections d') (hs : selections.getLast? = some s) :
    ReflTransGen Q s.after d' := by
  induction hp with
  | rest h => cases hs
  | @select d d' selections t h hp ih =>
    cases hp with
    | rest h' =>
      obtain rfl := Option.some.inj hs
      exact h'
    | select u h' hp => exact ih (by rwa [List.getLast?_cons_cons] at hs)

end Passes

/-- No selection adds a view. -/
theorem origins_select (d : Dispatcher) (layer : Layer) :
    (d.select layer).2.origins = d.origins :=
  (d.viewsStep_select layer).origins_eq

end Dispatcher

open Dispatcher

/-- A program passes through its selections. -/
theorem Program.run_passes {α : Type} (p : Program α) (d : Dispatcher) :
    Passes Aside d (p.selections d) (p.run d).2 := by
  induction p generalizing d with
  | done value => exact .refl d
  | select layer next ih => exact .select ⟨d, layer⟩ .refl (ih _ _)
  | requestShift c next ih => exact .head (.single (.queue d (d.pending ++ [c]))) (ih _)
  | setTimer running next ih => exact .head (.single (.setTimer d running)) (ih _)
  | timerRunning next ih => exact ih d.timerRunning d
  | note notice next ih => exact .head (.single (.note d [notice])) (ih _)

namespace Keyboard

variable {σ : Type} (a : Assembly σ) (k : Keyboard σ)

/-! ### Openings -/

/-- What an operation makes of the dispatcher before its first selection, or altogether if it makes
none and does not tell the state machine anything. -/
def opening : Operation → Dispatcher
  | .command (.updateTheme id) => (k.dispatcher.updateTheme a.toEnvironment id).2
  | .command (.load request settings) =>
    (k.dispatcher.prepare a.toEnvironment request.editor settings).2
  | .command (.toggleEmoji request) =>
    if k.dispatcher.layout.isNone then
      (k.dispatcher.prepare a.toEnvironment request.editor k.dispatcher.live).2
    else k.dispatcher
  | .command (.createView hardwareAcceleration) =>
    (k.dispatcher.createView a.toEnvironment hardwareAcceleration).2
  | .command .destroyView => k.dispatcher.destroyView.2
  | .command .releaseResources => k.dispatcher.releaseResources
  | .command .hideWindow => k.dispatcher.hideWindow
  | .command .save => k.dispatcher.save.2
  | .command .restore | .command (.input _ _) | .select _ | .requestShift _ => k.dispatcher
  | .setTimer running => k.dispatcher.setTimer running
  | .publish settings => { k.dispatcher with live := settings }
  | .setMoreKeys showing => (k.dispatcher.setMoreKeys showing).2

/-- **What an operation begins with** adds no view, unless it is to attach one, and shows nothing on
any. -/
theorem opening_cases (operation : Operation) :
    (∃ hardwareAcceleration, operation = .command (.createView hardwareAcceleration)) ∨
      ViewsStep Screen.Upkeep k.dispatcher (opening a k operation) := by
  have hrefl : ViewsStep Screen.Upkeep k.dispatcher k.dispatcher := .kept ⟨rfl, rfl⟩
  cases operation with
  | command command =>
    cases command with
    | updateTheme id => exact .inr (.kept (k.dispatcher.sameViews_updateTheme _ id))
    | load request settings => exact .inr (.kept (k.dispatcher.sameViews_prepare ..))
    | toggleEmoji request =>
      unfold opening
      split_ifs
      · exact .inr (.kept (k.dispatcher.sameViews_prepare ..))
      · exact .inr hrefl
    | createView hardwareAcceleration => exact .inl ⟨hardwareAcceleration, rfl⟩
    | destroyView => exact .inr k.dispatcher.viewsStep_destroyView
    | releaseResources => exact .inr k.dispatcher.viewsStep_releaseResources
    | hideWindow => exact .inr (k.dispatcher.viewsStep_map .hideWindow)
    | save => exact .inr (.kept k.dispatcher.sameViews_save)
    | restore => exact .inr hrefl
    | input i c => exact .inr hrefl
  | select layer => exact .inr hrefl
  | requestShift c => exact .inr hrefl
  | setTimer running => exact .inr (k.dispatcher.viewsStep_map fun s => .setTimer s running)
  | publish settings => exact .inr (.kept ⟨rfl, rfl⟩)
  | setMoreKeys showing => exact .inr (k.dispatcher.viewsStep_setMoreKeys showing)

theorem quiet_opening (operation : Operation) : k.dispatcher.Quiet (opening a k operation) := by
  rcases opening_cases a k operation with ⟨hardwareAcceleration, rfl⟩ | hv
  · exact .inr (attaches_createView _ _ hardwareAcceleration)
  · exact .inl hv

/-! ### Operations -/

theorem replay_passes (budget : Nat) :
    Passes Aside k.dispatcher ((replayTurns a budget k).flatMap (Turn.selections a))
      (replay a budget k).2.dispatcher := by
  fun_induction replayTurns a budget k with
  | case1 budget k hp =>
    rw [replay_of_nil a budget hp]
    exact .refl _
  | case2 k c rest hp =>
    rw [replay_zero_of_cons a hp]
    exact .rest (.tail (.single (.queue k.dispatcher [])) (.note _ _))
  | case3 k c rest budget hp t ho ih =>
    rw [replay_succ_of_cons a budget hp, ho, List.flatMap_cons]
    have hturn : Passes Aside t.keyboard.dispatcher (t.selections a) (t.after a).dispatcher :=
      Program.run_passes _ _
    exact (hturn.trans ih).head (.single (.queue k.dispatcher rest))
  | case4 k c rest budget hp t e ho =>
    rw [replay_succ_of_cons a budget hp, ho, List.flatMap_singleton]
    have hturn : Passes Aside t.keyboard.dispatcher (t.selections a) (t.after a).dispatcher :=
      Program.run_passes _ _
    exact (hturn.tail (.queue _ [])).head (.single (.queue k.dispatcher rest))

theorem drive_passes (callback : Callback) (c : Capitalization) :
    Passes Aside k.dispatcher (driveSelections a ⟨k, callback, c⟩)
      (drive a k callback c).2.dispatcher := by
  let t : Turn σ := ⟨k, callback, c⟩
  have hturn : Passes Aside k.dispatcher (t.selections a) (t.after a).dispatcher :=
    Program.run_passes _ _
  exact hturn.trans (replay_passes a (t.after a) maxReplays)

theorem load_passes (request : LoadRequest) (settings : Settings) :
    Passes Aside (k.dispatcher.prepare a.toEnvironment request.editor settings).2
      (loadSelections a k request settings) (load a k request settings).2.dispatcher := by
  rw [load_eq]
  unfold loadSelections
  rcases k.dispatcher.prepare a.toEnvironment request.editor settings with ⟨e | ⟨⟩, d⟩
  · exact .refl d
  · exact drive_passes a (k.withDispatcher d) .load request.capitalization

theorem selectPane_passes (layer : Layer) :
    Passes Aside k.dispatcher [⟨k.dispatcher, layer⟩] (k.selectPane layer).2.dispatcher := by
  rw [dispatcher_selectPane]
  exact .single k.dispatcher layer

theorem toggleEmoji_passes (request : LoadRequest) :
    Passes Aside (opening a k (.command (.toggleEmoji request)))
      (selections a k (.command (.toggleEmoji request)))
      (toggleEmoji a k request).2.dispatcher := by
  have hload := load_passes a k request k.dispatcher.live
  unfold opening selections toggleEmoji
  split_ifs
  · dsimp only
    generalize load a k request k.dispatcher.live = loaded at hload ⊢
    obtain ⟨e | ⟨⟩, k'⟩ := loaded
    · exact hload.trans (.refl _)
    · exact hload.trans (selectPane_passes k' .emoji)
  · exact selectPane_passes k .alphabet
  · exact selectPane_passes k .emoji

theorem restore_passes :
    Passes Aside k.dispatcher (selections a k (.command .restore)) k.restore.2.dispatcher := by
  unfold selections restore
  cases k.dispatcher.saved with
  | none => exact .refl _
  | some layer =>
    have hselect :
        Passes Aside k.dispatcher [⟨k.dispatcher, layer⟩] (k.select layer).2.dispatcher :=
      .single k.dispatcher layer
    dsimp only [Option.toList_some, List.map_cons, List.map_nil]
    split <;> rename_i h <;> rw [h] at hselect
    · exact hselect
    · exact (hselect.tail (.forget _)).tail (.note _ _)

theorem save_passes :
    Passes Aside k.dispatcher.save.2 [] (k.save a).dispatcher := by
  unfold save
  rcases k.dispatcher.save with ⟨_ | _, d⟩
  · exact .refl d
  · exact .rest (.single (.note d _))

theorem requestShift_passes (c : Capitalization) :
    Passes Aside k.dispatcher (driveSelections a ⟨k, .input .updateShift, c⟩)
      (k.requestShift a c).dispatcher := by
  have hdrive := drive_passes a k (.input .updateShift) c
  unfold requestShift
  split <;> rename_i h <;> rw [h] at hdrive
  · exact hdrive
  · exact hdrive.tail (.note _ _)

/-- **The course of an operation**: after its opening, its selections lead to its end, with asides
only between them. -/
theorem perform_passes (operation : Operation) :
    Passes Aside (opening a k operation) (selections a k operation)
      (k.perform a operation).2.dispatcher := by
  cases operation with
  | command command =>
    cases command with
    | load request settings => exact load_passes a k request settings
    | toggleEmoji request => exact toggleEmoji_passes a k request
    | save => exact save_passes a k
    | restore => exact restore_passes a k
    | input i c => exact drive_passes a k (.input i) c
    | updateTheme id => exact .refl _
    | createView hardwareAcceleration => exact .refl _
    | destroyView => exact .refl _
    | releaseResources => exact .refl _
    | hideWindow => exact .refl _
  | select layer => exact .single k.dispatcher layer
  | requestShift c => exact requestShift_passes a k c
  | setTimer running => exact .refl _
  | publish settings => exact .refl _
  | setMoreKeys showing => exact .refl _

theorem theme_perform (operation : Operation) :
    (k.perform a operation).2.dispatcher.theme = (opening a k operation).theme :=
  (perform_passes a k operation).keeps (fun _ _ h => h.theme_eq)
    fun d layer => (d.sameHoldings_select layer).theme

theorem origins_perform (operation : Operation) :
    (k.perform a operation).2.dispatcher.origins = (opening a k operation).origins :=
  (perform_passes a k operation).keeps
    (fun _ _ h => h.viewsStep.change.origins_eq) fun d layer => d.origins_select layer

/-! ### Runs -/

/-- The selections of a run, in their order. -/
def selectionsAll : Keyboard σ → List Operation → List Selection
  | _, [] => []
  | k, operation :: operations =>
    selections a k operation ++ selectionsAll (k.perform a operation).2 operations

/-- **The course of a run**: its selections lead from its beginning to its end, and what is done
besides shows nothing on any view. -/
theorem performAll_passes (operations : List Operation) :
    Passes Quiet k.dispatcher (selectionsAll a k operations)
      (k.performAll a operations).dispatcher := by
  induction operations generalizing k with
  | nil => exact .refl _
  | cons operation operations ih =>
    have hperform : Passes Quiet (opening a k operation) (selections a k operation)
        (k.perform a operation).2.dispatcher :=
      (perform_passes a k operation).mono fun _ _ h => .inl h.viewsStep
    exact (hperform.head (.single (quiet_opening a k operation))).trans
      (ih (k.perform a operation).2)

end Keyboard

end SoftKeyboard
