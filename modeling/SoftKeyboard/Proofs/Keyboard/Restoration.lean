import SoftKeyboard.Proofs.Keyboard.Availability
import SoftKeyboard.Proofs.Keyboard.Reload

/-!
# Saving a layer and restoring it

A layer that was saved waits in the dispatcher until it is restored.  Whatever the host does in the
meantime, short of saving another layer, it stays there (`Keyboard.saved_performAll`), and restoring
it shows it as soon as there are a layout and a view to show it on.  It is given back once
(`Keyboard.restore_gives_saved`).

Nothing is kept but the name of the layer: it may be one that was saved under another layout or
theme, or the emoji panel.
-/

namespace SoftKeyboard.Keyboard

open Dispatcher

variable {σ : Type} {a : Assembly σ} {k : Keyboard σ} {layer : Layer}

/-! ### The saved layer in the course of a run -/

theorem saved_save (a : Assembly σ) (h : k.dispatcher.currentLayer? = some layer) :
    (k.save a).dispatcher.saved = some layer := by
  rcases save_cases a k with ⟨hnone, -⟩ | ⟨shown, notices, position, signals, hshown, hsave⟩
  · cases hnone.symm.trans h
  · rw [hsave]
    exact hshown.symm.trans h

/-- The operation saves a layer, or restores one. -/
def TouchesSaved (a : Assembly σ) : Event σ := fun k operation =>
  SavesLayer k operation ∨ RestoresLayer a k operation

/-- A saved layer waits until another one is saved or it is restored. -/
theorem saved_performAll {operations : List Operation}
    (hnever : Never a (TouchesSaved a) k operations) :
    (k.performAll a operations).dispatcher.saved = k.dispatcher.saved := by
  refine performAll_induction (P := fun k' => k'.dispatcher.saved = k.dispatcher.saved) ?_ hnever
    rfl
  intro k' operation htouch h
  exact (saved_perform (fun hs => htouch (.inl hs)) fun hr => htouch (.inr hr)).trans h

theorem restore_of_saved_eq_none (h : k.dispatcher.saved = none) : k.restore = (.ok none, k) := by
  rcases restore_cases k with ⟨-, hr⟩ | ⟨layer, hs, -⟩
  · exact hr
  · cases hs.symm.trans h

/-- Where no layer is saved, none is until one is. -/
theorem saved_performAll_eq_none {operations : List Operation}
    (hnever : Never a SavesLayer k operations) (h : k.dispatcher.saved = none) :
    (k.performAll a operations).dispatcher.saved = none := by
  refine performAll_induction (P := fun k => k.dispatcher.saved = none) ?_ hnever h
  intro k operation hs h
  by_cases hr : operation = .command .restore
  · obtain rfl := hr
    show k.restore.2.dispatcher.saved = none
    rw [restore_of_saved_eq_none h]
    exact h
  · exact (saved_perform (a := a) hs fun ho => hr ho.1).trans h

/-! ### Restoring a saved layer -/

/-- A saved layer can be restored whenever it can be shown. -/
theorem restore_eq_ok_iff (h : k.dispatcher.saved = some layer) :
    k.restore.1 = .ok (some layer) ↔
      k.dispatcher.layout ≠ none ∧ k.dispatcher.screen ≠ none := by
  rw [← k.dispatcher.select_eq_ok_iff layer]
  rcases restore_cases k with ⟨hnone, -⟩ | ⟨saved, hsaved, hr⟩
  · cases hnone.symm.trans h
  · obtain rfl := Option.some.inj (hsaved.symm.trans h)
    rcases hr with ⟨e, he, hr⟩ | ⟨hok, notices, hr⟩
    · rw [hr, he]
      exact iff_of_false (fun h => nomatch h) fun h => nomatch h
    · rw [hr]
      exact iff_of_true rfl hok

/-- A layer that cannot be restored stays saved. -/
theorem saved_restore_of_error (h : k.dispatcher.saved = some layer) {e : KeyboardError}
    (he : k.restore.1 = .error e) : k.restore.2.dispatcher.saved = some layer := by
  rcases restore_cases k with ⟨-, hr⟩ | ⟨saved, -, ⟨e', -, hr⟩ | ⟨-, notices, hr⟩⟩
  · rw [hr] at he
    cases he
  · rw [hr]
    exact (k.dispatcher.sameHoldings_select saved).saved.trans h
  · rw [hr] at he
    cases he

/-- A keyboard has been given its saved layer back: the layer is on the screen and saved no more.
Layout, texts and theme are the same, and neither the builder nor the state machine was asked. -/
structure GivenBack (k k' : Keyboard σ) (layer : Layer) : Prop where
  shown : k'.dispatcher.currentLayer? = some layer
  saved : k'.dispatcher.saved = none
  layout : k'.dispatcher.layout = k.dispatcher.layout
  configuration : k'.dispatcher.configuration? = k.dispatcher.configuration?
  texts : k'.dispatcher.texts = k.dispatcher.texts
  theme : k'.dispatcher.theme = k.dispatcher.theme
  builds : k'.dispatcher.builds = k.dispatcher.builds
  position : k'.position = k.position
  signals : k'.signals = k.signals

/-- A restore that succeeds gives the saved layer back. -/
theorem givenBack_restore (h : k.dispatcher.saved = some layer) {given : Option Layer}
    (hok : k.restore.1 = .ok given) : given = some layer ∧ k.GivenBack k.restore.2 layer := by
  rcases restore_cases k with ⟨hnone, -⟩ | ⟨saved, hsaved, ⟨e, -, hr⟩ | ⟨hselect, notices, hr⟩⟩
  · cases hnone.symm.trans h
  · rw [hr] at hok
    cases hok
  · obtain rfl := Option.some.inj (hsaved.symm.trans h)
    have hsame := k.dispatcher.sameHoldings_select saved
    have hshown := currentLayer?_of_select_ok hselect
    rw [hr] at hok ⊢
    refine ⟨(Except.ok.inj hok).symm, hshown, rfl, hsame.layout, ?_, hsame.texts, hsame.theme,
      hsame.builds, rfl, rfl⟩
    exact congrArg (Option.map Layout.configuration) hsame.layout

/-! ### All runs -/

/-- **A saved layer is given back, and once.**  In any state in which a layer is on the screen, it
is saved.  Then the host does anything, except that it saves no other layer and does not succeed in
restoring one:

* every restore that it tries on the way fails and leaves the layer saved;
* the next restore succeeds exactly if there are a layout and a view, be they those of before or
  others, and then gives the layer, shows it, and asks neither the builder nor the state machine;
* from then on, until another layer is saved, a restore finds none and changes nothing. -/
theorem restore_gives_saved (a : Assembly σ) (live : Settings) (position : σ)
    (operations between : List Operation) (layer : Layer) :
    let k := (start live position).performAll a operations
    let saving := k.save a
    let k' := saving.performAll a between
    k.dispatcher.currentLayer? = some layer →
      Never a (TouchesSaved a) saving between →
      (∀ before after, between = before ++ .command .restore :: after →
        (∃ e, (saving.performAll a before).restore.1 = .error e) ∧
          (saving.performAll a before).restore.2.dispatcher.saved = some layer) ∧
      (k'.restore.1 = .ok (some layer) ↔
        k'.dispatcher.layout ≠ none ∧ k'.dispatcher.screen ≠ none) ∧
      ∀ given, k'.restore.1 = .ok given →
        given = some layer ∧ k'.GivenBack k'.restore.2 layer ∧
          ∀ more, Never a SavesLayer k'.restore.2 more →
            (k'.restore.2.performAll a more).restore =
              (.ok none, k'.restore.2.performAll a more) := by
  intro k saving k' hshown hnever
  have hsaved : saving.dispatcher.saved = some layer := saved_save a hshown
  have hsaved' : k'.dispatcher.saved = some layer := (saved_performAll hnever).trans hsaved
  refine ⟨?_, restore_eq_ok_iff hsaved', ?_⟩
  · rintro before after rfl
    obtain ⟨hbefore, hafter⟩ := never_append.1 hnever
    have hwaiting : (saving.performAll a before).dispatcher.saved = some layer :=
      (saved_performAll hbefore).trans hsaved
    -- the restore is not one that succeeds, since that would have touched the saved layer
    cases hr : (saving.performAll a before).restore.1 with
    | error e => exact ⟨⟨e, rfl⟩, saved_restore_of_error hwaiting hr⟩
    | ok given =>
      exact absurd (.inr ⟨rfl, given, congrArg Reply.layer hr⟩) (never_cons.1 hafter).1
  · intro given hok
    obtain ⟨hgiven, hback⟩ := givenBack_restore hsaved' hok
    refine ⟨hgiven, hback, fun more hmore => ?_⟩
    exact restore_of_saved_eq_none (saved_performAll_eq_none hmore hback.saved)

/-- The emoji panel is saved.  It cannot be restored while the layout is gone with its theme, and
comes back with a Russian layout on another view, once. -/
theorem restore_gives_saved_emoji :
    let a : Assembly Layer := ⟨.unsplit, .basic⟩
    let k := (start {} .alphabet).performAll a
      [.command (.createView false), .command (.toggleEmoji {})]
    let between : List Operation :=
      [.command (.updateTheme ⟨0⟩), .command .restore, .command .destroyView,
        .command (.load {} { subtype := ⟨"ru_RU", "jcuken"⟩ }), .command .save,
        .command (.createView true), .select .symbols]
    let k' := (k.save a).performAll a between
    k.dispatcher.currentLayer? = some .emoji ∧ k'.dispatcher.currentLayer? = some .symbols ∧
      k'.restore.1 = .ok (some .emoji) ∧ k'.GivenBack k'.restore.2 .emoji ∧
      (k'.restore.2.performAll a [.command (.updateTheme ⟨2⟩)]).restore.1 = .ok none := by
  intro a k between k'
  have hshown : k.dispatcher.currentLayer? = some .emoji := by decide +kernel
  have hlast : k'.dispatcher.currentLayer? = some .symbols := by decide +kernel
  have hok : k'.restore.1 = .ok (some .emoji) := eq_ok_of_toOption (by decide +kernel)
  have hother {k : Keyboard Layer} {operation : Operation} (hs : operation ≠ .command .save)
      (hr : operation ≠ .command .restore) : ¬TouchesSaved a k operation := by
    rintro (⟨ho, -⟩ | ⟨ho, -⟩)
    · exact hs ho
    · exact hr ho
  -- the restore finds no layout, and the save no layer on the screen
  have hrestore : ¬TouchesSaved a ((k.save a).perform a (.command (.updateTheme ⟨0⟩))).2
      (.command .restore) := by
    rintro (⟨ho, -⟩ | ⟨-, given, hr⟩)
    · cases ho
    · cases Reply.layer.inj hr
  have hsave {k : Keyboard Layer} (h : k.dispatcher.currentLayer? = none) :
      ¬TouchesSaved a k (.command .save) := by
    rintro (⟨-, hshown⟩ | ⟨ho, -⟩)
    · exact hshown h
    · cases ho
  have hnever : Never a (TouchesSaved a) (k.save a) between := by
    simp only [between, never_cons, never_nil, and_true]
    refine ⟨hother ?_ ?_, hrestore, hother ?_ ?_, hother ?_ ?_, hsave ?_, hother ?_ ?_,
      hother ?_ ?_⟩ <;> decide +kernel
  have h := restore_gives_saved a {} .alphabet
    [.command (.createView false), .command (.toggleEmoji {})] between .emoji hshown hnever
  obtain ⟨-, hback, honce⟩ := h.2.2 _ hok
  refine ⟨hshown, hlast, hok, hback, ?_⟩
  have hmore : Never a SavesLayer k'.restore.2 [.command (.updateTheme ⟨2⟩)] :=
    never_cons.2 ⟨fun hs => (nomatch hs.1), never_nil⟩
  exact congrArg Prod.fst (honce _ hmore)

end SoftKeyboard.Keyboard
