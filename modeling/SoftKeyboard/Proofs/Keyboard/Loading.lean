import SoftKeyboard.Machine.Basic
import SoftKeyboard.Proofs.Keyboard.Moves

/-!
# Loads that fail

A load can fail in two places, and it leaves different things behind.

* `Keyboard.undisturbed_of_build_error`: if no layout can be built, the load has changed nothing
  that can be seen or that the state machine knows, be it a load of the host or the one that
  toggling the emoji panel makes.
* `Keyboard.load_keeps_iff`: if the state machine fails afterwards, the layout and the texts have
  been replaced already.  They are as before only where the load had nothing to replace.
-/

namespace SoftKeyboard

open Dispatcher

namespace Keyboard

variable {σ : Type}

/-! ### Builds that fail -/

/-- The load that an operation makes first: one that the host asks for, or the one under the live
settings that toggling the emoji panel takes while there is no layout. -/
def loadOf (k : Keyboard σ) : Operation → Option (LoadRequest × Settings)
  | .command (.load request settings) => some (request, settings)
  | .command (.toggleEmoji request) =>
    if k.dispatcher.layout.isNone then some (request, k.dispatcher.live) else none
  | _ => none

/-- Two keyboards agree in all that can be seen of them and in all that their state machines were
told. -/
structure Undisturbed (k k' : Keyboard σ) : Prop where
  position : k'.position = k.position
  signals : k'.signals = k.signals
  layout : k'.dispatcher.layout = k.dispatcher.layout
  configuration : k'.dispatcher.configuration? = k.dispatcher.configuration?
  currentVariant : k'.dispatcher.currentVariant? = k.dispatcher.currentVariant?
  currentLayer : k'.dispatcher.currentLayer? = k.dispatcher.currentLayer?
  visible : k'.dispatcher.visible? = k.dispatcher.visible?
  texts : k'.dispatcher.texts = k.dispatcher.texts
  saved : k'.dispatcher.saved = k.dispatcher.saved
  timerRunning : k'.dispatcher.timerRunning = k.dispatcher.timerRunning
  pending : k'.dispatcher.pending = k.dispatcher.pending
  screen : k'.dispatcher.screen = k.dispatcher.screen
  views : k'.dispatcher.views = k.dispatcher.views

variable {a : Assembly σ} {k : Keyboard σ} {request : LoadRequest} {settings : Settings}

theorem load_of_build_error {e : BuildError}
    (hm : k.dispatcher.mustBuild a.toEnvironment request.editor settings = true)
    (he : k.dispatcher.built a.toEnvironment request.editor settings = .error e) :
    (load a k request settings).1 = .error (.build e) ∧
      k.Undisturbed (load a k request settings).2 := by
  obtain ⟨theme, notices, hp⟩ := prepare_of_error hm he
  rw [load_eq, hp]
  exact ⟨rfl, ⟨rfl, rfl, rfl, rfl, rfl, rfl, rfl, rfl, rfl, rfl, rfl, rfl, rfl⟩⟩

/-- **A failed build never disturbs the keyboard.**  An operation whose load asks the builder in
vain ends with the builder's error and leaves all as it was. -/
theorem undisturbed_of_build_error (a : Assembly σ) (k : Keyboard σ) (operation : Operation)
    {request : LoadRequest} {settings : Settings} {e : BuildError}
    (ho : k.loadOf operation = some (request, settings))
    (hm : k.dispatcher.mustBuild a.toEnvironment request.editor settings = true)
    (he : k.dispatcher.built a.toEnvironment request.editor settings = .error e) :
    (k.perform a operation).1.error? = some (.build e) ∧
      k.Undisturbed (k.perform a operation).2 := by
  have hload := load_of_build_error hm he
  unfold loadOf at ho
  split at ho
  · -- a load of the host
    obtain ⟨rfl, rfl⟩ := Prod.mk.inj (Option.some.inj ho)
    refine ⟨?_, hload.2⟩
    show Reply.error? (.outcome (load a k _ _).1) = _
    rw [hload.1]
    rfl
  · -- the load that toggling the emoji panel makes
    rename_i request'
    rw [Option.ite_none_right_eq_some] at ho
    obtain ⟨hnone, ho⟩ := ho
    obtain ⟨rfl, rfl⟩ := Prod.mk.inj (Option.some.inj ho)
    have hl : load a k request' k.dispatcher.live =
        (.error (.build e), (load a k request' k.dispatcher.live).2) := Prod.ext hload.1 rfl
    have ht : toggleEmoji a k request' =
        (.error (.build e), (load a k request' k.dispatcher.live).2) := by
      unfold toggleEmoji
      rw [if_pos hnone, hl]
    show Reply.error? (.pane (toggleEmoji a k request').1) = _ ∧
      k.Undisturbed (toggleEmoji a k request').2
    rw [ht]
    exact ⟨rfl, hload.2⟩
  · cases ho

/-- A keyboard that shows the alphabet goes on to do so when a split layout is not to be had. -/
theorem undisturbed_of_split :
    let k := (start {} .alphabet).performAll ⟨.unsplit, .basic⟩
      [.command (.createView false), .command (.load {} {})]
    let r := k.perform ⟨.unsplit, .basic⟩ (.command (.load {} { splitKeyboard := true }))
    k.dispatcher.currentLayer? = some .alphabet ∧
      r.2.dispatcher.currentLayer? = some .alphabet ∧ r.1.error?.isSome = true := by
  intro k r
  have hk : k.dispatcher.currentLayer? = some .alphabet := rfl
  have h := undisturbed_of_build_error ⟨.unsplit, .basic⟩ k
    (.command (.load {} { splitKeyboard := true })) rfl rfl rfl
  refine ⟨hk, h.2.currentLayer.trans hk, ?_⟩
  rw [h.1]
  rfl

/-! ### State machines that fail -/

/-- A load that gets its layout drives the machine with it. -/
theorem exists_load_eq
    (hp : (k.dispatcher.prepare a.toEnvironment request.editor settings).1 = .ok ()) :
    ∃ theme builds notices, load a k request settings =
      drive a
        (k.withDispatcher
          { k.dispatcher with
            theme, layout := k.dispatcher.loadedLayout? a.toEnvironment request.editor settings,
            texts := k.dispatcher.texts.setLocale settings.subtype.locale, builds, notices })
        .load request.capitalization := by
  rcases k.dispatcher.prepare_cases a.toEnvironment request.editor settings with
    ⟨-, theme, builds, notices, hprepare⟩ | ⟨e, theme, builds, notices, hprepare⟩
  · exact ⟨theme, builds, notices, by rw [load_eq, hprepare]⟩
  · rw [hprepare] at hp
    cases hp

/-- The layout and the texts are replaced before the machine is told, and it cannot undo that. -/
theorem layout_and_texts_load
    (hp : (k.dispatcher.prepare a.toEnvironment request.editor settings).1 = .ok ()) :
    (load a k request settings).2.dispatcher.layout =
        k.dispatcher.loadedLayout? a.toEnvironment request.editor settings ∧
      (load a k request settings).2.dispatcher.texts =
        k.dispatcher.texts.setLocale settings.subtype.locale := by
  obtain ⟨theme, builds, notices, hl⟩ := exists_load_eq hp
  have hsame := sameHoldings_of_requests (drive_requests a
    (k.withDispatcher
      { k.dispatcher with
        theme, layout := k.dispatcher.loadedLayout? a.toEnvironment request.editor settings,
        texts := k.dispatcher.texts.setLocale settings.subtype.locale, builds, notices })
    .load request.capitalization)
  rw [hl]
  exact ⟨hsame.layout, hsame.texts⟩

/-- **What a load leaves when the state machine fails.**  A load that got its layout keeps the
layout before, its configuration, its script and the languages of the texts only if there was
nothing to replace: it reused the layout, or the builder gave the same one again, and the locale
stands for the languages that the texts had.  That the machine fails makes no difference. -/
theorem load_keeps_iff (a : Assembly σ) (k : Keyboard σ) (request : LoadRequest)
    (settings : Settings)
    (hp : (k.dispatcher.prepare a.toEnvironment request.editor settings).1 = .ok ()) :
    let d := k.dispatcher
    let d' := (load a k request settings).2.dispatcher
    (d'.layout = d.layout ∧ d'.configuration? = d.configuration? ∧ d'.script = d.script ∧
        d'.texts.languages = d.texts.languages) ↔
      (d.mustBuild a.toEnvironment request.editor settings = true →
        (d.built a.toEnvironment request.editor settings).toOption = d.layout) ∧
      (d.texts.setLocale settings.subtype.locale).languages = d.texts.languages := by
  intro d d'
  obtain ⟨hlayout, htexts⟩ := layout_and_texts_load hp
  have hkept : d'.layout = d.layout ↔
      (d.mustBuild a.toEnvironment request.editor settings = true →
        (d.built a.toEnvironment request.editor settings).toOption = d.layout) := by
    show (load a k request settings).2.dispatcher.layout = _ ↔ _
    rw [hlayout]
    unfold loadedLayout?
    split_ifs with hm
    · exact ⟨fun h _ => h, fun h => h hm⟩
    · exact ⟨fun _ h => absurd h hm, fun _ => rfl⟩
  rw [show d'.texts = _ from htexts, ← hkept]
  constructor
  · rintro ⟨hl, -, -, ht⟩
    exact ⟨hl, ht⟩
  · rintro ⟨hl, ht⟩
    -- configuration and script are the layout's
    refine ⟨hl, ?_, ?_, ht⟩
    · rw [configuration?, configuration?, hl]
    · rw [script, script, hl]

/-- A keyboard whose view is gone and that loads the layout it has keeps it, although the machine
cannot show a layer. -/
theorem load_keeps_when_detached :
    let k := (start {} .alphabet).performAll ⟨.unsplit, .basic⟩
      [.command (.createView false), .command (.load {} {}), .command .destroyView]
    let r := load ⟨.unsplit, .basic⟩ k {} {}
    r.1 = .error (.noView .alphabet) ∧ r.2.dispatcher.layout = k.dispatcher.layout ∧
      r.2.dispatcher.texts.languages = k.dispatcher.texts.languages := by
  intro k r
  have h := (load_keeps_iff ⟨.unsplit, .basic⟩ k {} {} rfl).2 ⟨fun h => (by cases h), rfl⟩
  exact ⟨rfl, h.1, h.2.2.2⟩

/-- A keyboard whose view is gone and that loads a Russian layout fails, and has the layout, its
configuration and Russian texts nevertheless. -/
theorem load_replaces_when_detached :
    let k := (start {} .alphabet).performAll ⟨.unsplit, .basic⟩
      [.command (.createView false), .command (.load {} {}), .command .destroyView]
    let r := load ⟨.unsplit, .basic⟩ k {} { subtype := ⟨"ru_RU", "jcuken"⟩ }
    r.1 = .error (.noView .alphabet) ∧ r.2.dispatcher.layout ≠ k.dispatcher.layout ∧
      r.2.dispatcher.configuration? ≠ k.dispatcher.configuration? ∧
      r.2.dispatcher.texts.languages ≠ k.dispatcher.texts.languages := by
  refine ⟨rfl, ?_, ?_, ?_⟩
  · decide
  · decide
  · decide

end Keyboard

end SoftKeyboard
