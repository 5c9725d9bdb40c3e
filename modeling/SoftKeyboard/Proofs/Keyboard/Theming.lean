import Mathlib.Data.List.Induction
import SoftKeyboard.Proofs.Keyboard.Lifecycle

/-!
# Theme, layout and views in keeping

A theme is bound by the first load, for the first view or by the host, each time from other
settings.  Nevertheless the parts of a keyboard agree on it.

* `Dispatcher.InKeeping`: a layout is in use only under a bound theme, and has its identifier and
  the width of its display.
* `Keyboard.theme_perform_of_bound`: a bound theme stays unless the host asks for another one, which
  drops the layout.
* `Keyboard.attachedIn_of_mem_origins`: every view was made for the theme that was bound when
  it was attached.

`Keyboard.theme_in_keeping` puts them together.
-/

namespace SoftKeyboard

open Relation

namespace Dispatcher

variable {env : Environment} {d d' : Dispatcher}

/-! ### The theme of the layout -/

/-- A layout is in use only if a theme is bound, and has its identifier and its width. -/
def InKeeping (d : Dispatcher) : Prop :=
  ∀ layout, d.layout = some layout →
    ∃ bound, d.theme = some bound ∧ layout.configuration.theme = bound.theme.id ∧
      layout.configuration.width = bound.keyboardWidth

theorem boundOr_of_eq_some {bound : BoundTheme} (h : d.theme = some bound) (fallback : ThemeId) :
    d.boundOr env fallback = bound := by
  rw [boundOr, h, Option.getD_some]

/-- A layout that stays does so under the theme it has. -/
theorem InKeeping.of_layout_eq (h : d.InKeeping) (hlayout : d'.layout = d.layout)
    (htheme : ∀ bound, d.theme = some bound → d'.theme = some bound) : d'.InKeeping := by
  intro layout hl
  obtain ⟨bound, hb, hid, hwidth⟩ := h layout (hlayout.symm.trans hl)
  exact ⟨bound, htheme bound hb, hid, hwidth⟩

theorem InKeeping.prepare (he : env.Steady) (h : d.InKeeping) (editor : Editor)
    (settings : Settings) : (d.prepare env editor settings).2.InKeeping := by
  have htheme := d.theme_prepare env editor settings
  have hstays : ∀ bound, d.theme = some bound →
      (d.prepare env editor settings).2.theme = some bound := by
    intro bound hb
    rw [htheme, boundOr_of_eq_some hb]
  rcases d.prepare_ends env editor settings with
    ⟨-, theme, texts, notices, hp⟩ | ⟨-, e, -, theme, notices, hp⟩ |
      ⟨-, layout, hb, theme, texts, notices, hp⟩
  · exact h.of_layout_eq (by rw [hp]) hstays
  · exact h.of_layout_eq (by rw [hp]) hstays
  · -- the new layout has the configuration that was derived from the theme bound by now
    have hc : layout.configuration = .derive (d.boundOr env settings.theme) editor settings :=
      (he.configuration hb).trans (d.derived_eq_derive env editor settings)
    intro layout' hl
    rw [hp] at hl
    obtain rfl := Option.some.inj hl
    refine ⟨_, htheme, ?_, ?_⟩
    · rw [hc]
      rfl
    · rw [hc]
      rfl

/-- No move takes layout and theme apart. -/
theorem InKeeping.move (he : env.Steady) (h : d.InKeeping) (hm : Move env d d') :
    d'.InKeeping := by
  rcases hm.prepared_or_layout with ⟨editor, settings, rfl⟩ | ⟨hlayout | hnone, -⟩
  · exact h.prepare he editor settings
  · cases hm.themeStep with
    | kept htheme => exact h.of_layout_eq hlayout fun bound hb => htheme.trans hb
    | bound id hunbound _ =>
      exact h.of_layout_eq hlayout fun bound hb => (by cases hunbound.symm.trans hb)
    | changed id _ hnone =>
      intro layout hl
      cases hnone.symm.trans hl
  · intro layout hl
    cases hnone.symm.trans hl

/-! ### Asking for a theme -/

/-- The theme that is asked for is bound already exactly if nothing is to be done. -/
theorem updateTheme_eq_false_iff (h : d.Resolved env.display) (id : ThemeId) :
    (d.updateTheme env id).1 = false ↔
      d.theme.map BoundTheme.theme = some (Theme.resolve id) := by
  have hany : (d.theme.any fun bound => bound.theme.id = (Theme.resolve id).id) = true ↔
      d.theme.map BoundTheme.theme = some (Theme.resolve id) := by
    cases ht : d.theme with
    | none => exact iff_of_false Bool.false_ne_true (Option.some_ne_none _).symm
    | some bound =>
      obtain ⟨id', rfl⟩ := h bound ht
      rw [Option.any_some, decide_eq_true_eq, Option.map_some, Option.some.injEq]
      exact ⟨Theme.eq_of_id_eq (Theme.resolve_mem_all id') (Theme.resolve_mem_all id),
        congrArg Theme.id⟩
  rw [← hany]
  show (ite (d.theme.any fun bound => bound.theme.id = (Theme.resolve id).id)
    (false, _) ((true, _) : Bool × Dispatcher)).1 = false ↔ _
  by_cases hbound : (d.theme.any fun bound => bound.theme.id = (Theme.resolve id).id) = true
  · rw [if_pos hbound]
    exact iff_of_true rfl hbound
  · rw [if_neg hbound]
    exact iff_of_false Bool.false_ne_true.symm hbound

end Dispatcher

namespace Keyboard

open Dispatcher

variable {σ : Type} {a : Assembly σ} {k : Keyboard σ} {operation : Operation}

/-! ### The bound theme in a run -/

/-- What the host gets when it asks for a theme, and what becomes of the keyboard. -/
theorem perform_updateTheme_cases (a : Assembly σ) (k : Keyboard σ) (id : ThemeId) :
    let r := k.perform a (.command (.updateTheme id))
    (r.1 = .changed false ∧ ∃ notices, r.2 = k.withDispatcher { k.dispatcher with notices }) ∨
      r.1 = .changed true ∧ r.2.dispatcher.theme = some ⟨Theme.resolve id, a.display⟩ ∧
        r.2.dispatcher.layout = none := by
  intro r
  have hr : r = (.changed (k.dispatcher.updateTheme a.toEnvironment id).1,
      k.withDispatcher (k.dispatcher.updateTheme a.toEnvironment id).2) := rfl
  rcases updateTheme_cases a.toEnvironment k.dispatcher id with ⟨notices, hu⟩ | ⟨notices, hu⟩
  · rw [hr, hu]
    exact .inl ⟨rfl, notices, rfl⟩
  · rw [hr, hu]
    exact .inr ⟨rfl, rfl, rfl⟩

theorem theme_opening {bound : BoundTheme} (hb : k.dispatcher.theme = some bound)
    (h : ¬ChangesTheme a k operation) : (opening a k operation).theme = some bound := by
  have hprepare : ∀ (editor : Editor) (settings : Settings),
      (k.dispatcher.prepare a.toEnvironment editor settings).2.theme = some bound := by
    intro editor settings
    rw [theme_prepare, boundOr_of_eq_some hb]
  cases operation with
  | command command =>
    cases command with
    | updateTheme id =>
      rcases perform_updateTheme_cases a k id with ⟨-, notices, hkept⟩ | ⟨hreply, -, -⟩
      · exact (congrArg (fun k => k.dispatcher.theme) hkept).trans hb
      · exact absurd ⟨id, rfl, hreply⟩ h
    | load request settings => exact hprepare request.editor settings
    | toggleEmoji request =>
      unfold opening
      split_ifs
      · exact hprepare request.editor k.dispatcher.live
      · exact hb
    | createView hardwareAcceleration =>
      exact (k.dispatcher.theme_createView _ hardwareAcceleration).trans
        (congrArg some (boundOr_of_eq_some hb _))
    | destroyView =>
      obtain ⟨retired, notices, hd⟩ := exists_destroyView_eq k.dispatcher
      exact (congrArg Dispatcher.theme hd).trans hb
    | releaseResources =>
      obtain ⟨screen, notices, hd⟩ := exists_releaseResources_eq k.dispatcher
      exact (congrArg Dispatcher.theme hd).trans hb
    | save =>
      obtain ⟨saved, notices, hd⟩ := exists_save_eq k.dispatcher
      exact (congrArg Dispatcher.theme hd).trans hb
    | hideWindow => exact hb
    | restore => exact hb
    | input i c => exact hb
  | setMoreKeys showing =>
    obtain ⟨screen, retired, hd⟩ := exists_setMoreKeys_eq k.dispatcher showing
    exact (congrArg Dispatcher.theme hd).trans hb
  | select layer => exact hb
  | requestShift c => exact hb
  | setTimer running => exact hb
  | publish settings => exact hb

/-- **A bound theme stays** unless the host asks for another one. -/
theorem theme_perform_of_bound {bound : BoundTheme} (hb : k.dispatcher.theme = some bound)
    (h : ¬ChangesTheme a k operation) :
    (k.perform a operation).2.dispatcher.theme = some bound :=
  (theme_perform a k operation).trans (theme_opening hb h)

/-- A theme is bound for good, be it this one or another. -/
theorem theme_perform_ne_none (h : k.dispatcher.theme ≠ none) (operation : Operation) :
    (k.perform a operation).2.dispatcher.theme ≠ none := by
  by_cases hc : ChangesTheme a k operation
  · obtain ⟨id, rfl, -⟩ := hc
    rcases perform_updateTheme_cases a k id with ⟨-, notices, hkept⟩ | ⟨-, htheme, -⟩
    · rw [hkept]
      exact h
    · rw [htheme]
      exact Option.some_ne_none _
  · obtain ⟨bound, hb⟩ := Option.ne_none_iff_exists'.1 h
    rw [theme_perform_of_bound hb hc]
    exact Option.some_ne_none _

theorem theme_performAll_ne_none (h : k.dispatcher.theme ≠ none) (operations : List Operation) :
    (k.performAll a operations).dispatcher.theme ≠ none := by
  induction operations generalizing k with
  | nil => exact h
  | cons operation operations ih => exact ih (theme_perform_ne_none h operation)

/-- Without a load that gets a layout there is none. -/
theorem layout_performAll_eq_none {operations : List Operation} (h : k.dispatcher.layout = none)
    (hnever : Never a (GetsLayout a) k operations) :
    (k.performAll a operations).dispatcher.layout = none := by
  refine performAll_induction (P := fun k => k.dispatcher.layout = none) ?_ hnever h
  intro k operation hget hl
  by_contra hlayout
  rcases (layout_perform_ne_none_iff a k operation).1 hlayout with hget' | ⟨-, hl'⟩
  · exact hget hget'
  · exact hl' hl

/-- An operation that gets a layout gets it for the theme that is bound, if one is, whatever the
settings say. -/
theorem theme_of_getsLayout (he : a.toEnvironment.Steady) (hk : k.dispatcher.InKeeping)
    {bound : BoundTheme} (hb : k.dispatcher.theme = some bound) (h : GetsLayout a k operation) :
    ∃ layout, (k.perform a operation).2.dispatcher.layout = some layout ∧
      layout.configuration.theme = bound.theme.id := by
  have hlayout := (layout_perform_ne_none_iff a k operation).2 (.inl h)
  obtain ⟨layout, hl⟩ := Option.ne_none_iff_exists'.1 hlayout
  -- an operation that loads does not ask for a theme
  have hchange : ¬ChangesTheme a k operation := by
    rintro ⟨id, rfl, -⟩
    obtain ⟨request, settings, hload, -⟩ := h
    cases hload
  obtain ⟨bound', hb', hid, -⟩ := of_moves (InKeeping.move he) hk (perform_moves a k operation)
    layout hl
  obtain rfl := Option.some.inj ((theme_perform_of_bound hb hchange).symm.trans hb')
  exact ⟨layout, hl, hid⟩

/-- While no load gets a layout there is none, and the operation that gets one gets it for the theme
that is bound by then. -/
theorem next_layout_in_keeping (he : a.toEnvironment.Steady) (hk : k.dispatcher.InKeeping)
    {bound : BoundTheme} (hb : k.dispatcher.theme = some bound) (hl : k.dispatcher.layout = none)
    {more : List Operation} (hnever : Never a (GetsLayout a) k more) :
    let k₁ := k.performAll a more
    k₁.dispatcher.layout = none ∧
      ∃ bound₁, k₁.dispatcher.theme = some bound₁ ∧
        (Never a (ChangesTheme a) k more → bound₁ = bound) ∧
        ∀ operation, GetsLayout a k₁ operation →
          ∃ layout, (k₁.perform a operation).2.dispatcher.layout = some layout ∧
            layout.configuration.theme = bound₁.theme.id := by
  intro k₁
  have htheme : k.dispatcher.theme ≠ none := by
    rw [hb]
    exact Option.some_ne_none bound
  obtain ⟨bound₁, hb₁⟩ := Option.ne_none_iff_exists'.1 (theme_performAll_ne_none htheme more)
  refine ⟨layout_performAll_eq_none hl hnever, bound₁, hb₁, fun hsame => ?_, ?_⟩
  · have hkept : k₁.dispatcher.theme = some bound :=
      performAll_induction (P := fun k => k.dispatcher.theme = some bound)
        (fun _ _ h hb => theme_perform_of_bound hb h) hsame hb
    exact Option.some.inj (hb₁.symm.trans hkept)
  · have hk₁ : k₁.dispatcher.InKeeping :=
      of_moves (InKeeping.move he) hk (performAll_moves a k more)
    exact fun operation hget => theme_of_getsLayout he hk₁ hb₁ hget

/-! ### Views and their themes -/

/-- A view of this origin was attached in a run: an operation attached it, and after that operation
the view had the number and the theme that was bound had the name. -/
def AttachedIn (a : Assembly σ) (k : Keyboard σ) (operations : List Operation)
    (origin : Nat × String) : Prop :=
  ∃ before hardwareAcceleration after bound,
    operations = before ++ .command (.createView hardwareAcceleration) :: after ∧
      let k₁ := k.performAll a (before ++ [.command (.createView hardwareAcceleration)])
      k₁.dispatcher.theme = some bound ∧ k₁.snapshot.view = some origin.1 ∧
        origin.2 = bound.theme.name

theorem AttachedIn.concat {operations : List Operation} {origin : Nat × String}
    (h : AttachedIn a k operations origin) (operation : Operation) :
    AttachedIn a k (operations ++ [operation]) origin := by
  obtain ⟨before, hardwareAcceleration, after, bound, rfl, hk₁⟩ := h
  exact ⟨before, hardwareAcceleration, after ++ [operation], bound, List.append_assoc .., hk₁⟩

/-- **Every view is made for the theme that is bound when it is attached.** -/
theorem attachedIn_of_mem_origins (a : Assembly σ) (k : Keyboard σ)
    (hk : k.dispatcher.views = []) (operations : List Operation) {origin : Nat × String}
    (ho : origin ∈ (k.performAll a operations).dispatcher.origins) :
    AttachedIn a k operations origin := by
  induction operations using List.reverseRecOn with
  | nil =>
    replace ho : origin ∈ k.dispatcher.views.map Record.origin := ho
    rw [hk] at ho
    cases ho
  | append_singleton operations operation ih =>
    rw [performAll_concat] at ho
    by_cases hattach : AttachesView (k.performAll a operations) operation
    · obtain ⟨hardwareAcceleration, rfl⟩ := hattach
      obtain ⟨bound, htheme, hview, horigins⟩ := (attaches_createView a.toEnvironment
        (k.performAll a operations).dispatcher hardwareAcceleration).origins
      rcases List.mem_append.1 (horigins ▸ ho) with hold | hnew
      · exact (ih hold).concat _
      · obtain rfl := List.mem_singleton.1 hnew
        refine ⟨operations, hardwareAcceleration, [], bound, rfl, ?_⟩
        rw [performAll_concat]
        exact ⟨htheme, hview, rfl⟩
    · -- no view was added by the last operation
      rw [origins_perform_eq hattach] at ho
      exact (ih ho).concat operation

/-! ### All runs -/

/-- **Theme, layout and views stay in keeping.**  After every run:

* the theme that is bound, if one is, is known, is drawn on the display, and stays unless an
  operation asks for another one;
* a layout is in use only under a bound theme, and has its identifier and the width of the display;
* asking for a theme gives `false` exactly if the theme that the identifier stands for is bound, and
  then nothing changes but the reports.  Otherwise that theme is bound, and there is no layout until
  a load gets one; that layout has the identifier of the theme that is bound by then, whatever the
  settings of the load say;
* every view was made for the theme that was bound when it was attached.

Known identifiers stand for their themes, unknown ones for the fallback. -/
theorem theme_in_keeping (catalog : Catalog) (display : Display) (listening : Bool)
    (machine : StateMachine σ) (live : Settings) (position : σ) (operations : List Operation) :
    let a : Assembly σ := ⟨.ofCatalog catalog display listening, machine⟩
    let k := (start live position).performAll a operations
    (∀ bound, k.dispatcher.theme = some bound →
      bound.theme ∈ Theme.all ∧ bound.display = display ∧
        ∀ operation, ¬ChangesTheme a k operation →
          (k.perform a operation).2.dispatcher.theme = some bound) ∧
    (∀ layout, k.dispatcher.layout = some layout →
      ∃ bound, k.dispatcher.theme = some bound ∧
        layout.configuration.theme = bound.theme.id ∧
        layout.configuration.width = display.width) ∧
    (∀ id,
      let r := k.perform a (.command (.updateTheme id))
      (r.1 = .changed false ↔ k.dispatcher.theme.map BoundTheme.theme = some (Theme.resolve id)) ∧
      (r.1 = .changed false ∧ (∃ notices, r.2 = k.withDispatcher { k.dispatcher with notices }) ∨
        r.1 = .changed true ∧ r.2.dispatcher.theme = some ⟨Theme.resolve id, display⟩ ∧
          ∀ more, Never a (GetsLayout a) r.2 more →
            let k₁ := r.2.performAll a more
            k₁.dispatcher.layout = none ∧
              ∃ bound, k₁.dispatcher.theme = some bound ∧
                (Never a (ChangesTheme a) r.2 more → bound = ⟨Theme.resolve id, display⟩) ∧
                ∀ operation, GetsLayout a k₁ operation →
                  ∃ layout, (k₁.perform a operation).2.dispatcher.layout = some layout ∧
                    layout.configuration.theme = bound.theme.id)) ∧
    (∀ r ∈ k.dispatcher.views,
      AttachedIn a (start live position) operations (r.view, r.theme)) ∧
    (∀ theme ∈ Theme.all, Theme.resolve theme.id = theme) ∧
    ∀ id, (∀ theme ∈ Theme.all, theme.id ≠ id) → Theme.resolve id = Theme.fallback := by
  intro a k
  have he : a.toEnvironment.Steady := Environment.steady_ofCatalog catalog display listening
  have hmoves := performAll_moves a (start live position) operations
  have hresolved : k.dispatcher.Resolved a.display :=
    of_moves Resolved.move (fun _ h => (by cases h)) hmoves
  have hkeeping : k.dispatcher.InKeeping :=
    of_moves (InKeeping.move he) (fun _ h => (by cases h)) hmoves
  refine ⟨?_, ?_, ?_, ?_, fun theme h => Theme.resolve_id h, fun id h => Theme.resolve_of_unknown h⟩
  · intro bound hb
    obtain ⟨id, rfl⟩ := hresolved bound hb
    exact ⟨Theme.resolve_mem_all id, rfl, fun operation h => theme_perform_of_bound hb h⟩
  · intro layout hl
    obtain ⟨bound, hb, hid, hwidth⟩ := hkeeping layout hl
    obtain ⟨id, rfl⟩ := hresolved bound hb
    exact ⟨_, hb, hid, hwidth⟩
  · intro id r
    refine ⟨?_, ?_⟩
    · rw [← updateTheme_eq_false_iff hresolved id]
      exact ⟨Reply.changed.inj, congrArg Reply.changed⟩
    · rcases perform_updateTheme_cases a k id with hkept | ⟨hreply, htheme, hlayout⟩
      · exact .inl hkept
      · have hkeeping' : r.2.dispatcher.InKeeping :=
          of_moves (InKeeping.move he) hkeeping (perform_moves a k _)
        exact .inr ⟨hreply, htheme,
          fun more hnever => next_layout_in_keeping he hkeeping' htheme hlayout hnever⟩
  · intro r hr
    exact attachedIn_of_mem_origins a (start live position) rfl operations (List.mem_map_of_mem hr)

/-- The host asks for the oldest theme: the layout is gone, and the one that is loaded next is for
that theme, although the settings of the load name another one.  The view is for the theme that was
bound when it was attached. -/
theorem theme_in_keeping_after_ics :
    let a : Assembly Layer := ⟨.ofCatalog .bare {} false, .basic⟩
    let k := (start {} .alphabet).performAll a
      [.command (.createView false), .command (.load {} {})]
    let r := k.perform a (.command (.updateTheme Theme.ics.id))
    let load : Operation := .command (.load {} { theme := Theme.klp.id })
    r.1 = .changed true ∧ r.2.dispatcher.layout = none ∧
      (∃ layout, (r.2.perform a load).2.dispatcher.layout = some layout ∧
        layout.configuration.theme = Theme.ics.id) ∧
      AttachedIn a (start {} .alphabet) [.command (.createView false), .command (.load {} {})]
        (1, Theme.lxxLight.name) := by
  intro a k r load
  have hother : k.dispatcher.theme.map BoundTheme.theme ≠ some (Theme.resolve Theme.ics.id) := by
    decide +kernel
  have hget : GetsLayout a r.2 load := ⟨{}, { theme := Theme.klp.id }, rfl, rfl⟩
  have hview : ∃ v ∈ k.dispatcher.views, (v.view, v.theme) = (1, Theme.lxxLight.name) := by
    decide +kernel
  obtain ⟨v, hv, hvtheme⟩ := hview
  obtain ⟨-, -, hupdate, hviews, -, -⟩ := theme_in_keeping .bare {} false .basic {} .alphabet
    [.command (.createView false), .command (.load {} {})]
  have hattached := hviews v hv
  rw [hvtheme] at hattached
  obtain ⟨hiff, hreply⟩ := hupdate Theme.ics.id
  rcases hreply with ⟨hfalse, -⟩ | ⟨htrue, htheme, hmore⟩
  · exact absurd (hiff.1 hfalse) hother
  · obtain ⟨hnone, bound, hb, hbound, hload⟩ := hmore [] never_nil
    obtain ⟨layout, hl, hid⟩ := hload load hget
    rw [hbound never_nil] at hid
    exact ⟨htrue, hnone, ⟨layout, hl, hid⟩, hattached⟩

end Keyboard

end SoftKeyboard
