import SoftKeyboard.Proofs.Dispatcher.Layouts
import SoftKeyboard.Proofs.Keyboard.Loading

/-!
# The layout as a cache

A load asks the builder only if the layout has another configuration than the one wanted.  With a
catalog for a builder this makes no difference to building at every load, because the layout is at
any time what the catalog would give for its configuration now
(`Keyboard.layout_caches_catalog`).

The cache holds one layout.  A load in between replaces it as soon as its own layout is built, even
where the state machine then fails and with it the load: the layout before is built anew by the next
load that wants it (`Keyboard.build_again_after_failed_load`).
-/

namespace SoftKeyboard

open Relation Dispatcher

namespace Keyboard

variable {σ : Type}

/-- The configuration that a load wants: that of the bound theme, or of the theme of the settings
where none is bound yet, on the display. -/
def wanted (display : Display) (k : Keyboard σ) (request : LoadRequest) (settings : Settings) :
    Configuration :=
  .derive ⟨(k.dispatcher.theme.map BoundTheme.theme).getD (.resolve settings.theme), display⟩
    request.editor settings

/-! ### One load -/

variable {a : Assembly σ} {k : Keyboard σ} {request : LoadRequest} {settings : Settings}

/-- What the layout was prepared to be, no state machine changes. -/
theorem sameHoldings_load :
    (k.dispatcher.prepare a.toEnvironment request.editor settings).2.SameHoldings
      (load a k request settings).2.dispatcher := by
  rw [load_eq]
  split
  · rename_i e d h
    rw [h]
    exact .refl d
  · rename_i d h
    rw [h]
    exact sameHoldings_of_requests (drive_requests a (k.withDispatcher d) .load _)

theorem prepare_of_load_ok (h : (load a k request settings).1 = .ok ()) :
    (k.dispatcher.prepare a.toEnvironment request.editor settings).1 = .ok () := by
  rw [load_eq] at h
  split at h
  · cases h
  · rename_i d hp
    rw [hp]

/-- An operation that loads does to the layout what the load does, and succeeds only if the load
does. -/
theorem perform_of_loadOf {operation : Operation}
    (ho : k.loadOf operation = some (request, settings)) :
    (load a k request settings).2.dispatcher.SameHoldings (k.perform a operation).2.dispatcher ∧
      ((k.perform a operation).1.error? = none → (load a k request settings).1 = .ok ()) := by
  unfold loadOf at ho
  split at ho
  · -- a load of the host
    obtain ⟨rfl, rfl⟩ := Prod.mk.inj (Option.some.inj ho)
    refine ⟨.refl _, fun h => ?_⟩
    replace h : Reply.error? (.outcome (load a k _ _).1) = none := h
    cases hl : (load a k _ _).1 with
    | ok => rfl
    | error e =>
      rw [hl] at h
      cases h
  · -- the load that toggling the emoji panel makes
    rename_i request'
    rw [Option.ite_none_right_eq_some] at ho
    obtain ⟨hnone, ho⟩ := ho
    obtain ⟨rfl, rfl⟩ := Prod.mk.inj (Option.some.inj ho)
    show (load a k request' k.dispatcher.live).2.dispatcher.SameHoldings
        (toggleEmoji a k request').2.dispatcher ∧
      (Reply.error? (.pane (toggleEmoji a k request').1) = none →
        (load a k request' k.dispatcher.live).1 = .ok ())
    unfold toggleEmoji
    rw [if_pos hnone]
    split
    · rename_i e k' hl
      rw [hl]
      exact ⟨.refl _, fun h => (by cases h)⟩
    · rename_i k' hl
      rw [hl, dispatcher_selectPane]
      exact ⟨sameHoldings_of_requests (k'.select_requests .emoji), fun _ => rfl⟩
  · cases ho

/-- A load that wants the layout's configuration asks nothing, and the layout stays. -/
theorem load_of_configuration?_eq (request : LoadRequest) (settings : Settings)
    (hd : k.dispatcher.DrawnOn a.display)
    (hc : k.dispatcher.configuration? = some (k.wanted a.display request settings)) :
    (load a k request settings).2.dispatcher.builds = k.dispatcher.builds ∧
      (load a k request settings).2.dispatcher.layout = k.dispatcher.layout := by
  have hw := derived_eq a.toEnvironment k.dispatcher request.editor settings hd
  replace hc := hc.trans (congrArg some hw.symm)
  rw [sameHoldings_load.builds, sameHoldings_load.layout, builds_prepare, layout_prepare, if_pos hc,
    if_pos hc]
  exact ⟨rfl, rfl⟩

/-- A load that wants another configuration asks the builder once, and what it gives is the layout
then; the layout before stays if it gives none. -/
theorem load_of_configuration?_ne (request : LoadRequest) (settings : Settings)
    (hd : k.dispatcher.DrawnOn a.display)
    (hc : k.dispatcher.configuration? ≠ some (k.wanted a.display request settings)) :
    (load a k request settings).2.dispatcher.builds = k.dispatcher.builds + 1 ∧
      (load a k request settings).2.dispatcher.layout =
        (a.build k.dispatcher.builds (k.wanted a.display request settings)).toOption.or
          k.dispatcher.layout := by
  have hw : _ = k.wanted a.display request settings :=
    derived_eq a.toEnvironment k.dispatcher request.editor settings hd
  rw [← hw] at hc ⊢
  rw [sameHoldings_load.builds, sameHoldings_load.layout, builds_prepare, layout_prepare, if_neg hc,
    if_neg hc]
  exact ⟨rfl, rfl⟩

/-- After a load that succeeds the layout has the configuration wanted. -/
theorem configuration?_load (he : a.toEnvironment.Steady) (hd : k.dispatcher.DrawnOn a.display)
    (hok : (load a k request settings).1 = .ok ()) :
    (load a k request settings).2.dispatcher.configuration? =
      some (k.wanted a.display request settings) := by
  have hw := derived_eq a.toEnvironment k.dispatcher request.editor settings hd
  have hc := configuration?_prepare a.toEnvironment k.dispatcher request.editor settings he
    (prepare_of_load_ok hok)
  rw [configuration?, sameHoldings_load.layout]
  exact hc.trans (congrArg some hw)

/-! ### A load in between -/

/-- **A load in between** two loads of one configuration costs the second of them a build exactly if
it wants another configuration itself and the builder has a layout for that.  Whether it succeeds
makes no difference. -/
theorem reuse_after_load_iff (he : a.toEnvironment.Steady) (hd : k.dispatcher.DrawnOn a.display)
    {c : Configuration} (hc : k.dispatcher.configuration? = some c) (between again : LoadRequest)
    (s s' : Settings) :
    let k₁ := (load a k between s).2
    let k₂ := (load a k₁ again s').2
    k₁.wanted a.display again s' = c →
      (k₂.dispatcher.builds = k₁.dispatcher.builds ∧ k₂.dispatcher.layout = k.dispatcher.layout ↔
        k.wanted a.display between s = c ∨
          ∃ e, a.build k.dispatcher.builds (k.wanted a.display between s) = .error e) := by
  intro k₁ k₂ hwant
  have hd₁ : k₁.dispatcher.DrawnOn a.display := of_moves DrawnOn.move hd (load_moves a k between s)
  -- the layout is reused if it is there still
  have hreuse (hkept : k₁.dispatcher.layout = k.dispatcher.layout) :
      k₂.dispatcher.builds = k₁.dispatcher.builds ∧ k₂.dispatcher.layout = k.dispatcher.layout := by
    have hc₁ : k₁.dispatcher.configuration? = some (k₁.wanted a.display again s') := by
      rw [configuration?, hkept, hwant]
      exact hc
    obtain ⟨hbuilds, hlayout⟩ := load_of_configuration?_eq again s' hd₁ hc₁
    exact ⟨hbuilds, hlayout.trans hkept⟩
  by_cases hsame : k.wanted a.display between s = c
  · obtain ⟨-, hkept⟩ := load_of_configuration?_eq between s hd
      (hc.trans (congrArg some hsame.symm))
    exact ⟨fun _ => .inl hsame, fun _ => hreuse hkept⟩
  · obtain ⟨-, hlayout⟩ := load_of_configuration?_ne between s hd
      fun h => hsame (Option.some.inj (h.symm.trans hc))
    cases hb : a.build k.dispatcher.builds (k.wanted a.display between s) with
    | error e =>
      rw [hb] at hlayout
      exact ⟨fun _ => .inr ⟨e, rfl⟩, fun _ => hreuse hlayout⟩
    | ok layout =>
      rw [hb] at hlayout
      -- the layout has another configuration now
      have hc₁ : k₁.dispatcher.configuration? = some (k.wanted a.display between s) := by
        rw [configuration?, hlayout]
        exact congrArg some (he.configuration hb)
      have hasked := load_of_configuration?_ne again s' hd₁
        fun h => hsame (Option.some.inj (hc₁.symm.trans (h.trans (congrArg some hwant))))
      constructor
      · rintro ⟨hkept, -⟩
        have hbuilds : k₂.dispatcher.builds = k₁.dispatcher.builds + 1 := hasked.1
        omega
      · rintro (h | ⟨e, h⟩)
        · exact absurd h hsame
        · cases h

/-! ### All runs -/

/-- **The layout caches what the catalog gives.**  After every run:

* the layout is what the catalog would give for its configuration now, up to the stamp;
* an operation that loads asks the catalog once if there is no layout or its configuration differs
  from the one wanted, and then has what the catalog gives, or the layout before if it gives none;
  otherwise it asks nothing and keeps the very layout; and if it succeeds, the layout has the
  configuration wanted;
* between two loads of one configuration, a load that fails, or any other, costs the second of them
  a build exactly if it wants another configuration and the catalog has a layout for that. -/
theorem layout_caches_catalog (catalog : Catalog) (display : Display) (listening : Bool)
    (machine : StateMachine σ) (live : Settings) (position : σ) (operations : List Operation) :
    let a : Assembly σ := ⟨.ofCatalog catalog display listening, machine⟩
    let k := (start live position).performAll a operations
    (∀ layout, k.dispatcher.layout = some layout →
      ∀ stamp, catalog.build stamp layout.configuration = .ok { layout with stamp }) ∧
    (∀ operation request settings, k.loadOf operation = some (request, settings) →
      let c := k.wanted display request settings
      let r := k.perform a operation
      (k.dispatcher.configuration? ≠ some c →
        r.2.dispatcher.builds = k.dispatcher.builds + 1 ∧
          r.2.dispatcher.layout =
            (catalog.build k.dispatcher.builds c).toOption.or k.dispatcher.layout) ∧
      (k.dispatcher.configuration? = some c →
        r.2.dispatcher.builds = k.dispatcher.builds ∧
          r.2.dispatcher.layout = k.dispatcher.layout) ∧
      (r.1.error? = none → r.2.dispatcher.configuration? = some c)) ∧
    ∀ c between again s s',
      let k₁ := (load a k between s).2
      let k₂ := (load a k₁ again s').2
      k.dispatcher.configuration? = some c → k₁.wanted display again s' = c →
        (k₂.dispatcher.builds = k₁.dispatcher.builds ∧
            k₂.dispatcher.layout = k.dispatcher.layout ↔
          k.wanted display between s = c ∨
            ∃ e, catalog.build k.dispatcher.builds (k.wanted display between s) = .error e) := by
  intro a k
  have he : a.toEnvironment.Steady := Environment.steady_ofCatalog catalog display listening
  have hm := performAll_moves a (start live position) operations
  have hs : k.dispatcher.Sourced a.toEnvironment :=
    of_moves Sourced.move (fun _ h => (by cases h)) hm
  have hd : k.dispatcher.DrawnOn a.display := of_moves DrawnOn.move (fun _ h => (by cases h)) hm
  refine ⟨fun layout hl stamp => hs.build_eq he hl stamp, ?_, ?_⟩
  · intro operation request settings ho c r
    obtain ⟨hsame, hok⟩ := perform_of_loadOf (a := a) ho
    refine ⟨fun hc => ?_, fun hc => ?_, fun hr => ?_⟩
    · obtain ⟨hbuilds, hlayout⟩ := load_of_configuration?_ne request settings hd hc
      exact ⟨hsame.builds.trans hbuilds, hsame.layout.trans hlayout⟩
    · obtain ⟨hbuilds, hlayout⟩ := load_of_configuration?_eq request settings hd hc
      exact ⟨hsame.builds.trans hbuilds, hsame.layout.trans hlayout⟩
    · rw [configuration?, hsame.layout]
      exact configuration?_load he hd (hok hr)
  · intro c between again s s' k₁ k₂ hc hwant
    exact reuse_after_load_iff he hd hc between again s s' hwant

/-- The layout is there still for the load that wants it again, after one of a layout that the
catalog does not have. -/
theorem layout_caches_bare :
    let a : Assembly Layer := ⟨.ofCatalog .bare {} false, .basic⟩
    let k := (start {} .alphabet).performAll a
      [.command (.createView false), .command (.load {} {})]
    let german : Settings := { subtype := ⟨"de_DE", "qwertz"⟩ }
    let k₁ := (load a k {} german).2
    let k₂ := (load a k₁ {} {}).2
    k.dispatcher.configuration? = some (k.wanted {} {} {}) ∧
      (k.perform a (.command (.load {} {}))).2.dispatcher.builds = k.dispatcher.builds ∧
      (∃ layout, k.dispatcher.layout = some layout ∧
        Catalog.bare.build 5 layout.configuration = .ok { layout with stamp := 5 }) ∧
      (k.perform a (.command (.load {} german))).2.dispatcher.builds = k.dispatcher.builds + 1 ∧
      k₂.dispatcher.builds = k₁.dispatcher.builds ∧
      k₂.dispatcher.layout = k.dispatcher.layout := by
  intro a k german k₁ k₂
  have hc : k.dispatcher.configuration? = some (k.wanted {} {} {}) := by decide +kernel
  have hne : k.dispatcher.configuration? ≠ some (k.wanted {} {} german) := by decide +kernel
  have hagain : k₁.wanted {} {} {} = k.wanted {} {} {} := by decide +kernel
  obtain ⟨layout, hl⟩ := Option.isSome_iff_exists.1
    (show k.dispatcher.layout.isSome = true by decide +kernel)
  have h := layout_caches_catalog .bare {} false .basic {} .alphabet
    [.command (.createView false), .command (.load {} {})]
  have hreuse := h.2.1 (.command (.load {} {})) {} {} rfl
  have hask := h.2.1 (.command (.load {} german)) {} german rfl
  have hbetween := h.2.2 _ {} {} german {} hc hagain
  -- the runs are written out, so that the facts are the goals literally and nothing is evaluated
  dsimp only [k₂, k₁, german, k, a] at h hreuse hask hbetween hc hne hl ⊢
  refine ⟨hc, ?_, ⟨layout, hl, ?_⟩, ?_, ?_⟩
  · exact (hreuse.2.1 hc).1
  · exact h.1 layout hl 5
  · exact (hask.1 hne).1
  · exact hbetween.2 (.inr ⟨.missingDescriptor _, rfl⟩)

/-- The load of a French layout fails for want of a view, and the English one must be built anew. -/
theorem build_again_after_failed_load :
    let a : Assembly Layer := ⟨.ofCatalog .bare {} false, .basic⟩
    let k := (start {} .alphabet).performAll a
      [.command (.createView false), .command (.load {} {}), .command .destroyView]
    let k₁ := (load a k {} { subtype := ⟨"fr_FR", "qwerty"⟩ }).2
    let k₂ := (k₁.perform a (.command (.createView false))).2
    k.dispatcher.configuration? = some (k.wanted {} {} {}) ∧
      (load a k {} { subtype := ⟨"fr_FR", "qwerty"⟩ }).1 = .error (.noView .alphabet) ∧
      k₂.wanted {} {} {} = k.wanted {} {} {} ∧
      (load a k₂ {} {}).1 = .ok () ∧
      (load a k₂ {} {}).2.dispatcher.builds = k₂.dispatcher.builds + 1 ∧
      (load a k₂ {} {}).2.dispatcher.layout ≠ k.dispatcher.layout := by
  refine ⟨by decide +kernel, rfl, by decide +kernel, rfl, by decide +kernel, by decide +kernel⟩

end Keyboard

end SoftKeyboard
