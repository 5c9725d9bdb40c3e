import SoftKeyboard.Proofs.Keyboard.Caching
import SoftKeyboard.Proofs.Keyboard.History

/-!
# Layout, view and saved layer in the course of a run

To show a layer takes a layout and a view, and to restore one takes a saved layer.  Few operations
touch one of these three.

* A layout is there after an operation that gets one, and gone after a change of the theme
  (`Keyboard.layout_perform_ne_none_iff`).
* A view is there after one was attached, and gone after it was detached
  (`Keyboard.screen_perform_ne_none_iff`).
* The saved layer stays unless a layer is saved or restored (`Keyboard.saved_perform`).

All other operations leave a keyboard on the same footing (`Dispatcher.SameFooting`).
-/

namespace SoftKeyboard

namespace Dispatcher

variable {d d' : Dispatcher}

/-- Two dispatchers have the same layout and the same saved layer, and a view both or neither. -/
structure SameFooting (d d' : Dispatcher) : Prop where
  layout : d'.layout = d.layout
  screen : d'.screen = none ↔ d.screen = none
  saved : d'.saved = d.saved

theorem SameHoldings.screen_eq_none_iff (h : d.SameHoldings d') :
    d'.screen = none ↔ d.screen = none := by
  have hview := congrArg Option.isNone h.view
  rw [Option.isNone_map, Option.isNone_map] at hview
  rw [← Option.isNone_iff_eq_none, ← Option.isNone_iff_eq_none, hview]

theorem SameHoldings.footing (h : d.SameHoldings d') : d.SameFooting d' :=
  ⟨h.layout, h.screen_eq_none_iff, h.saved⟩

theorem sameFooting_releaseResources (d : Dispatcher) : d.SameFooting d.releaseResources := by
  unfold releaseResources
  split
  · exact ⟨rfl, Iff.rfl, rfl⟩
  · rename_i s hs
    exact ⟨rfl, by rw [hs]; exact iff_of_false (fun h => nomatch h) (fun h => nomatch h), rfl⟩

theorem sameFooting_map (d : Dispatcher) (f : Screen → Screen) :
    d.SameFooting { d with screen := d.screen.map f } :=
  ⟨rfl, Option.map_eq_none_iff, rfl⟩

theorem sameFooting_setMoreKeys (d : Dispatcher) (showing : Bool) :
    d.SameFooting (d.setMoreKeys showing).2 := by
  unfold Dispatcher.setMoreKeys
  split
  · rename_i s hs
    exact ⟨rfl, by rw [hs]; exact iff_of_false (fun h => nomatch h) (fun h => nomatch h), rfl⟩
  · exact ⟨rfl, Iff.rfl, rfl⟩
  · exact ⟨rfl, Iff.rfl, rfl⟩

theorem footing_updateTheme (env : Environment) (d : Dispatcher) (id : ThemeId) :
    (d.updateTheme env id).2.screen = d.screen ∧ (d.updateTheme env id).2.saved = d.saved := by
  rcases updateTheme_cases env d id with ⟨notices, h⟩ | ⟨notices, h⟩ <;> rw [h] <;>
    exact ⟨rfl, rfl⟩

theorem footing_createView (env : Environment) (d : Dispatcher) (hardwareAcceleration : Bool) :
    (d.createView env hardwareAcceleration).2.layout = d.layout ∧
      (d.createView env hardwareAcceleration).2.screen ≠ none ∧
      (d.createView env hardwareAcceleration).2.saved = d.saved := by
  obtain ⟨view, name, theme, retired, notices, h⟩ := exists_createView_eq env d hardwareAcceleration
  rw [h]
  exact ⟨rfl, Option.some_ne_none _, rfl⟩

theorem footing_destroyView (d : Dispatcher) :
    d.destroyView.2.layout = d.layout ∧ d.destroyView.2.screen = none ∧
      d.destroyView.2.saved = d.saved := by
  obtain ⟨retired, notices, h⟩ := d.exists_destroyView_eq
  rw [h]
  exact ⟨rfl, rfl, rfl⟩

theorem layout_prepare_ne_none_iff (env : Environment) (d : Dispatcher) (editor : Editor)
    (settings : Settings) :
    (d.prepare env editor settings).2.layout ≠ none ↔
      (d.prepare env editor settings).1 = .ok () ∨ d.layout ≠ none := by
  rcases d.prepare_cases env editor settings with
    ⟨hl, theme, builds, notices, h⟩ | ⟨e, theme, builds, notices, h⟩
  · rw [h]
    exact iff_of_true hl (.inl rfl)
  · rw [h]
    exact ⟨.inr, fun h => h.resolve_left fun h => nomatch h⟩

theorem saved_prepare (env : Environment) (d : Dispatcher) (editor : Editor)
    (settings : Settings) : (d.prepare env editor settings).2.saved = d.saved := by
  rcases d.prepare_cases env editor settings with
    ⟨-, theme, builds, notices, h⟩ | ⟨e, theme, builds, notices, h⟩
  · rw [h]
  · rw [h]

end Dispatcher

namespace Keyboard

open Dispatcher

variable {σ : Type}

/-! ### Events -/

/-- The operation loads a layout and gets it, be it by a load of the host or by the one that
toggling the emoji panel makes. -/
def GetsLayout (a : Assembly σ) : Event σ := fun k operation =>
  ∃ request settings, k.loadOf operation = some (request, settings) ∧
    (k.dispatcher.prepare a.toEnvironment request.editor settings).1 = .ok ()

/-- The operation asks for a theme, and that is another one than before. -/
def ChangesTheme (a : Assembly σ) : Event σ := fun k operation =>
  ∃ id, operation = .command (.updateTheme id) ∧ (k.perform a operation).1 = .changed true

/-- The operation attaches a view. -/
def AttachesView : Event σ := fun _ operation =>
  ∃ hardwareAcceleration, operation = .command (.createView hardwareAcceleration)

/-- The operation detaches the view, if there is one. -/
def DetachesView : Event σ := fun _ operation => operation = .command .destroyView

/-- The operation saves a layer, because there is one on the screen. -/
def SavesLayer : Event σ := fun k operation =>
  operation = .command .save ∧ k.dispatcher.currentLayer? ≠ none

/-- The operation restores the saved layer, or finds that there is none. -/
def RestoresLayer (a : Assembly σ) : Event σ := fun k operation =>
  operation = .command .restore ∧ ∃ layer?, (k.perform a operation).1 = .layer (.ok layer?)

/-! ### Saving and restoring -/

/-- **What saving does**: nothing if there is no layer on the screen; otherwise the layer is kept,
and the machine is told. -/
theorem save_cases (a : Assembly σ) (k : Keyboard σ) :
    (k.dispatcher.currentLayer? = none ∧ k.save a = k) ∨
      ∃ layer notices position signals, k.dispatcher.currentLayer? = some layer ∧
        k.save a = ⟨{ k.dispatcher with saved := some layer, notices }, position, signals⟩ := by
  unfold save Dispatcher.save
  cases h : k.dispatcher.currentLayer? with
  | none => exact .inl ⟨rfl, rfl⟩
  | some layer => exact .inr ⟨layer, _, _, _, rfl, rfl⟩

/-- **What restoring does**: nothing if no layer is saved; otherwise it shows the saved layer and
forgets it, or fails to show it and keeps it. -/
theorem restore_cases (k : Keyboard σ) :
    (k.dispatcher.saved = none ∧ k.restore = (.ok none, k)) ∨
      ∃ layer, k.dispatcher.saved = some layer ∧
        ((∃ e, (k.dispatcher.select layer).1 = .error e ∧
            k.restore = (.error e, k.withDispatcher (k.dispatcher.select layer).2)) ∨
          (k.dispatcher.select layer).1 = .ok () ∧
            ∃ notices, k.restore = (.ok (some layer),
              k.withDispatcher { (k.dispatcher.select layer).2 with saved := none, notices })) := by
  unfold restore
  cases hs : k.dispatcher.saved with
  | none => exact .inl ⟨rfl, rfl⟩
  | some layer =>
    refine .inr ⟨layer, rfl, ?_⟩
    dsimp only
    cases hr : (k.dispatcher.select layer).1 with
    | error e =>
      have hselect : k.select layer = (.error e, (k.select layer).2) := Prod.ext hr rfl
      rw [hselect]
      exact .inl ⟨e, rfl, rfl⟩
    | ok =>
      have hselect : k.select layer = (.ok (), (k.select layer).2) := Prod.ext hr rfl
      rw [hselect]
      exact .inr ⟨rfl, _, rfl⟩

/-- Saving touches neither layout nor view. -/
theorem footing_save (a : Assembly σ) (k : Keyboard σ) :
    (k.save a).dispatcher.layout = k.dispatcher.layout ∧
      (k.save a).dispatcher.screen = k.dispatcher.screen := by
  rcases save_cases a k with ⟨-, h⟩ | ⟨layer, notices, position, signals, -, h⟩ <;> rw [h] <;>
    exact ⟨rfl, rfl⟩

/-- Restoring neither replaces the layout nor detaches the view. -/
theorem footing_restore (k : Keyboard σ) :
    k.restore.2.dispatcher.layout = k.dispatcher.layout ∧
      (k.restore.2.dispatcher.screen = none ↔ k.dispatcher.screen = none) := by
  rcases restore_cases k with ⟨-, h⟩ | ⟨layer, -, h⟩
  · rw [h]
    exact ⟨rfl, Iff.rfl⟩
  · have hselect := (k.dispatcher.sameHoldings_select layer).footing
    rcases h with ⟨e, -, h⟩ | ⟨-, notices, h⟩ <;> rw [h] <;>
      exact ⟨hselect.layout, hselect.screen⟩

/-! ### Operations that keep the footing -/

theorem sameHoldings_drive (a : Assembly σ) (k : Keyboard σ) (callback : Callback)
    (c : Capitalization) : k.dispatcher.SameHoldings (drive a k callback c).2.dispatcher :=
  sameHoldings_of_requests (drive_requests a k callback c)

theorem sameHoldings_selectPane (k : Keyboard σ) (layer : Layer) :
    k.dispatcher.SameHoldings (k.selectPane layer).2.dispatcher := by
  rw [dispatcher_selectPane]
  exact k.dispatcher.sameHoldings_select layer

theorem sameHoldings_requestShift (a : Assembly σ) (k : Keyboard σ) (c : Capitalization) :
    k.dispatcher.SameHoldings (k.requestShift a c).dispatcher := by
  have hd := sameHoldings_drive a k (.input .updateShift) c
  unfold requestShift
  split <;> rename_i hr <;> rw [hr] at hd
  · exact hd
  · exact hd.trans (Request.note _ _).sameHoldings

/-- With a layout, toggling the emoji panel only shows a layer. -/
theorem sameHoldings_toggleEmoji (a : Assembly σ) {k : Keyboard σ}
    (h : k.dispatcher.layout ≠ none) (request : LoadRequest) :
    k.dispatcher.SameHoldings (toggleEmoji a k request).2.dispatcher := by
  unfold toggleEmoji
  rw [if_neg (by rwa [Option.isNone_iff_eq_none])]
  split_ifs
  · exact sameHoldings_selectPane k .alphabet
  · exact sameHoldings_selectPane k .emoji

end Keyboard

namespace Operation

/-- Whether the operation touches neither the theme, nor which view is attached, nor the saved
layer. -/
def keepsFooting : Operation → Bool
  | command (.updateTheme _) | command (.createView _) | command .destroyView | command .save
  | command .restore => false
  | _ => true

end Operation

namespace Keyboard

open Dispatcher

variable {σ : Type} {a : Assembly σ} {k : Keyboard σ} {operation : Operation}

/-- What preparing a layout leaves is left by an operation that loads. -/
theorem footing_of_loadOf {request : LoadRequest} {settings : Settings}
    (hl : k.loadOf operation = some (request, settings)) :
    (k.dispatcher.prepare a.toEnvironment request.editor settings).2.SameFooting
      (k.perform a operation).2.dispatcher :=
  (sameHoldings_load.trans (perform_of_loadOf (a := a) hl).1).footing

/-- An operation that does not load either keeps the footing. -/
theorem footing_perform (ho : operation.keepsFooting = true) (hl : k.loadOf operation = none) :
    k.dispatcher.SameFooting (k.perform a operation).2.dispatcher := by
  cases operation with
  | command command =>
    cases command with
    | updateTheme id => cases ho
    | load request settings => cases hl
    | toggleEmoji request =>
      have hlayout : k.dispatcher.layout ≠ none := by
        rw [loadOf, ite_eq_right_iff] at hl
        exact fun h => nomatch hl (Option.isNone_iff_eq_none.2 h)
      exact (sameHoldings_toggleEmoji a hlayout request).footing
    | createView hardwareAcceleration => cases ho
    | destroyView => cases ho
    | releaseResources => exact k.dispatcher.sameFooting_releaseResources
    | hideWindow => exact k.dispatcher.sameFooting_map _
    | save => cases ho
    | restore => cases ho
    | input i c => exact (sameHoldings_drive a k (.input i) c).footing
  | select layer => exact (k.dispatcher.sameHoldings_select layer).footing
  | requestShift c => exact (sameHoldings_requestShift a k c).footing
  | setTimer running => exact k.dispatcher.sameFooting_map _
  | publish settings => exact ⟨rfl, Iff.rfl, rfl⟩
  | setMoreKeys showing => exact k.dispatcher.sameFooting_setMoreKeys showing

/-! ### The footing after an operation -/

theorem layout_perform (hl : k.loadOf operation = none) (ht : ¬ChangesTheme a k operation) :
    (k.perform a operation).2.dispatcher.layout = k.dispatcher.layout := by
  by_cases ho : operation.keepsFooting = true
  · exact (footing_perform ho hl).layout
  · unfold Operation.keepsFooting at ho
    split at ho
    · rename_i id
      rcases updateTheme_cases a.toEnvironment k.dispatcher id with ⟨notices, h⟩ | ⟨notices, h⟩
      · exact congrArg (fun r => r.2.layout) h
      · exact absurd ⟨id, rfl, congrArg Reply.changed (congrArg Prod.fst h)⟩ ht
    · exact (footing_createView a.toEnvironment k.dispatcher _).1
    · exact (footing_destroyView k.dispatcher).1
    · exact (footing_save a k).1
    · exact (footing_restore k).1
    · exact absurd rfl ho

theorem layout_of_changesTheme (h : ChangesTheme a k operation) :
    (k.perform a operation).2.dispatcher.layout = none := by
  obtain ⟨id, rfl, hreply⟩ := h
  rcases updateTheme_cases a.toEnvironment k.dispatcher id with ⟨notices, h⟩ | ⟨notices, h⟩
  · have hchanged : (k.dispatcher.updateTheme a.toEnvironment id).1 = true :=
      Reply.changed.inj hreply
    rw [h] at hchanged
    cases hchanged
  · exact congrArg (fun r => r.2.layout) h

/-- **A layout after an operation**: the operation got one, or there was one and the operation did
not change the theme. -/
theorem layout_perform_ne_none_iff (a : Assembly σ) (k : Keyboard σ) (operation : Operation) :
    (k.perform a operation).2.dispatcher.layout ≠ none ↔
      GetsLayout a k operation ∨ ¬ChangesTheme a k operation ∧ k.dispatcher.layout ≠ none := by
  cases hl : k.loadOf operation with
  | none =>
    have hg : ¬GetsLayout a k operation := by
      rintro ⟨request, settings, h, -⟩
      cases hl.symm.trans h
    rw [or_iff_right hg]
    by_cases ht : ChangesTheme a k operation
    · exact iff_of_false (fun h => h (layout_of_changesTheme ht)) fun h => h.1 ht
    · rw [layout_perform hl ht, and_iff_right ht]
  | some load =>
    obtain ⟨request, settings⟩ := load
    have hg : GetsLayout a k operation ↔
        (k.dispatcher.prepare a.toEnvironment request.editor settings).1 = .ok () := by
      refine ⟨?_, fun hok => ⟨request, settings, hl, hok⟩⟩
      rintro ⟨request', settings', hl', hok⟩
      obtain ⟨rfl, rfl⟩ := Prod.mk.inj (Option.some.inj (hl.symm.trans hl'))
      exact hok
    have ht : ¬ChangesTheme a k operation := by
      rintro ⟨id, rfl, -⟩
      cases hl
    rw [(footing_of_loadOf (a := a) hl).layout, layout_prepare_ne_none_iff, hg, and_iff_right ht]

theorem screen_perform (hc : ¬AttachesView k operation) (hd : ¬DetachesView k operation) :
    (k.perform a operation).2.dispatcher.screen = none ↔ k.dispatcher.screen = none := by
  by_cases ho : operation.keepsFooting = true
  · cases hl : k.loadOf operation with
    | none => exact (footing_perform ho hl).screen
    | some load =>
      rw [(footing_of_loadOf (a := a) hl).screen, (k.dispatcher.sameViews_prepare ..).1]
  · unfold Operation.keepsFooting at ho
    split at ho
    · exact iff_of_eq (congrArg (· = none) (footing_updateTheme a.toEnvironment k.dispatcher _).1)
    · exact absurd ⟨_, rfl⟩ hc
    · exact absurd rfl hd
    · exact iff_of_eq (congrArg (· = none) (footing_save a k).2)
    · exact (footing_restore k).2
    · exact absurd rfl ho

/-- **A view after an operation**: the operation attached one, or there was one and the operation
did not detach it. -/
theorem screen_perform_ne_none_iff (a : Assembly σ) (k : Keyboard σ) (operation : Operation) :
    (k.perform a operation).2.dispatcher.screen ≠ none ↔
      AttachesView k operation ∨ ¬DetachesView k operation ∧ k.dispatcher.screen ≠ none := by
  by_cases hc : AttachesView k operation
  · obtain ⟨hardwareAcceleration, rfl⟩ := hc
    exact iff_of_true (footing_createView a.toEnvironment k.dispatcher _).2.1 (.inl ⟨_, rfl⟩)
  · rw [or_iff_right hc]
    by_cases hd : DetachesView k operation
    · obtain rfl := hd
      exact iff_of_false (fun h => h (footing_destroyView k.dispatcher).2.1) fun h => h.1 rfl
    · rw [and_iff_right hd]
      exact not_congr (screen_perform hc hd)

/-- **The saved layer after an operation** is the one before, unless a layer is saved or
restored. -/
theorem saved_perform (hs : ¬SavesLayer k operation) (hr : ¬RestoresLayer a k operation) :
    (k.perform a operation).2.dispatcher.saved = k.dispatcher.saved := by
  by_cases ho : operation.keepsFooting = true
  · cases hl : k.loadOf operation with
    | none => exact (footing_perform ho hl).saved
    | some load => rw [(footing_of_loadOf (a := a) hl).saved, saved_prepare]
  · unfold Operation.keepsFooting at ho
    split at ho
    · exact (footing_updateTheme a.toEnvironment k.dispatcher _).2
    · exact (footing_createView a.toEnvironment k.dispatcher _).2.2
    · exact (footing_destroyView k.dispatcher).2.2
    · rcases save_cases a k with ⟨-, h⟩ | ⟨layer, notices, position, signals, hlayer, -⟩
      · exact congrArg (fun k => k.dispatcher.saved) h
      · exact absurd ⟨rfl, fun h => nomatch hlayer.symm.trans h⟩ hs
    · rcases restore_cases k with ⟨-, h⟩ | ⟨layer, -, ⟨e, -, h⟩ | ⟨-, notices, h⟩⟩
      · exact absurd ⟨rfl, none, congrArg Reply.layer (congrArg Prod.fst h)⟩ hr
      · -- a layer that cannot be shown is kept
        exact (congrArg (fun r => r.2.dispatcher.saved) h).trans
          (k.dispatcher.sameHoldings_select layer).saved
      · exact absurd ⟨rfl, some layer, congrArg Reply.layer (congrArg Prod.fst h)⟩ hr
    · exact absurd rfl ho

end Keyboard

end SoftKeyboard
