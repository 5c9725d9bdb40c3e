import SoftKeyboard.Proofs.Dispatcher.Themes
import SoftKeyboard.Proofs.Layout.Building

/-!
# The layout in the course of moves

A dispatcher keeps one layout.  A load reuses it or asks the builder, which fails or gives another,
and every question is counted (`Dispatcher.prepare_ends`).  So a move leaves the layout as it is,
drops it, or puts an answer of the builder in its place (`Dispatcher.Move.layoutStep`).  From this
two properties follow that no move can undo.

* `Dispatcher.Sourced`: the layout is the answer to one of the questions counted.
* `Dispatcher.Past`: the layout of a stamp was given, and is not the one in use.
-/

namespace SoftKeyboard

open Relation

namespace Dispatcher

variable {env : Environment} {d d' : Dispatcher}

/-! ### Preparing a layout -/

/-- **The three ends of preparing a layout**: the configuration is the layout's already, or the
builder is asked for it and fails, or it is asked and its answer is the layout from now on. -/
theorem prepare_ends (env : Environment) (d : Dispatcher) (editor : Editor) (settings : Settings) :
    (d.configuration? = some (d.derived env editor settings) ∧
      ∃ theme texts notices, d.prepare env editor settings =
        (.ok (), { d with theme, texts, notices })) ∨
    (d.configuration? ≠ some (d.derived env editor settings) ∧
      ∃ e, d.built env editor settings = .error e ∧
        ∃ theme notices, d.prepare env editor settings =
          (.error e, { d with theme, builds := d.builds + 1, notices })) ∨
    (d.configuration? ≠ some (d.derived env editor settings) ∧
      ∃ layout, d.built env editor settings = .ok layout ∧
        ∃ theme texts notices, d.prepare env editor settings =
          (.ok (),
            { d with
              theme, layout := some layout, texts, builds := d.builds + 1, notices })) := by
  have hiff : d.mustBuild env editor settings = true ↔
      d.configuration? ≠ some (d.derived env editor settings) := decide_eq_true_iff
  by_cases hc : d.configuration? = some (d.derived env editor settings)
  · have hm : d.mustBuild env editor settings = false :=
      Bool.eq_false_iff.2 fun hm => hiff.1 hm hc
    obtain ⟨theme, notices, hp⟩ := prepare_of_reuse hm
    exact .inl ⟨hc, theme, _, notices, hp⟩
  · cases hb : d.built env editor settings with
    | error e =>
      obtain ⟨theme, notices, hp⟩ := prepare_of_error (hiff.2 hc) hb
      exact .inr (.inl ⟨hc, e, rfl, theme, notices, hp⟩)
    | ok layout =>
      obtain ⟨theme, notices, hp⟩ := prepare_of_ok (hiff.2 hc) hb
      exact .inr (.inr ⟨hc, layout, rfl, theme, _, notices, hp⟩)

section

variable (env : Environment) (d : Dispatcher) (editor : Editor) (settings : Settings)

/-- **The builder is asked once** if the configuration is not the layout's, and otherwise not. -/
theorem builds_prepare :
    (d.prepare env editor settings).2.builds =
      if d.configuration? = some (d.derived env editor settings) then d.builds
      else d.builds + 1 := by
  rcases d.prepare_ends env editor settings with
    ⟨hc, theme, texts, notices, hp⟩ | ⟨hc, e, -, theme, notices, hp⟩ |
      ⟨hc, layout, -, theme, texts, notices, hp⟩
  · rw [hp, if_pos hc]
  · rw [hp, if_neg hc]
  · rw [hp, if_neg hc]

/-- The layout stays if it has the configuration, and also if the builder fails. -/
theorem layout_prepare :
    (d.prepare env editor settings).2.layout =
      if d.configuration? = some (d.derived env editor settings) then d.layout
      else (d.built env editor settings).toOption.or d.layout := by
  rcases d.prepare_ends env editor settings with
    ⟨hc, theme, texts, notices, hp⟩ | ⟨hc, e, hb, theme, notices, hp⟩ |
      ⟨hc, layout, hb, theme, texts, notices, hp⟩
  · rw [hp, if_pos hc]
  · rw [hp, if_neg hc, hb]
    rfl
  · rw [hp, if_neg hc, hb]
    rfl

/-- A layout that was got has the configuration that was asked for. -/
theorem configuration?_prepare (he : env.Steady)
    (hok : (d.prepare env editor settings).1 = .ok ()) :
    (d.prepare env editor settings).2.configuration? = some (d.derived env editor settings) := by
  rcases d.prepare_ends env editor settings with
    ⟨hc, theme, texts, notices, hp⟩ | ⟨hc, e, hb, theme, notices, hp⟩ |
      ⟨hc, layout, hb, theme, texts, notices, hp⟩
  · rw [hp]
    exact hc
  · rw [hp] at hok
    cases hok
  · rw [hp]
    exact congrArg some (he.configuration hb)

end

/-! ### The layout in a move -/

/-- What becomes of the layout in a move. -/
inductive LayoutStep (env : Environment) (d d' : Dispatcher) : Prop where
  | kept (layout : d'.layout = d.layout) (builds : d.builds ≤ d'.builds)
  | dropped (layout : d'.layout = none) (builds : d.builds ≤ d'.builds)
  /-- The builder was asked, and its answer is the layout now. -/
  | built {c : Configuration} {layout : Layout} (answer : env.build d.builds c = .ok layout)
    (layout : d'.layout = some layout) (builds : d.builds < d'.builds)

theorem layoutStep_prepare (env : Environment) (d : Dispatcher) (editor : Editor)
    (settings : Settings) : LayoutStep env d (d.prepare env editor settings).2 := by
  rcases d.prepare_ends env editor settings with
    ⟨-, theme, texts, notices, hp⟩ | ⟨-, e, -, theme, notices, hp⟩ |
      ⟨-, layout, hb, theme, texts, notices, hp⟩
  · rw [hp]
    exact .kept rfl (Nat.le_refl _)
  · rw [hp]
    exact .kept rfl (Nat.le_succ _)
  · rw [hp]
    exact .built hb rfl (Nat.lt_succ_self _)

/-- Only a load can put a layout in place; all else leaves it as it is or drops it. -/
theorem Move.prepared_or_layout (h : Move env d d') :
    (∃ editor settings, d' = (d.prepare env editor settings).2) ∨
      (d'.layout = d.layout ∨ d'.layout = none) ∧ d'.builds = d.builds := by
  cases h with
  | request hr => exact .inr ⟨.inl hr.sameHoldings.layout, hr.sameHoldings.builds⟩
  | updateTheme id =>
    rcases updateTheme_cases env d id with ⟨notices, hu⟩ | ⟨notices, hu⟩
    · rw [hu]
      exact .inr ⟨.inl rfl, rfl⟩
    · rw [hu]
      exact .inr ⟨.inr rfl, rfl⟩
  | prepare editor settings => exact .inl ⟨editor, settings, rfl⟩
  | createView hardwareAcceleration =>
    obtain ⟨view, name, theme, retired, notices, hd⟩ :=
      exists_createView_eq env d hardwareAcceleration
    rw [hd]
    exact .inr ⟨.inl rfl, rfl⟩
  | destroyView =>
    obtain ⟨retired, notices, hd⟩ := exists_destroyView_eq d
    rw [hd]
    exact .inr ⟨.inl rfl, rfl⟩
  | releaseResources =>
    obtain ⟨screen, notices, hd⟩ := exists_releaseResources_eq d
    rw [hd]
    exact .inr ⟨.inl rfl, rfl⟩
  | hideWindow => exact .inr ⟨.inl rfl, rfl⟩
  | save =>
    obtain ⟨saved, notices, hd⟩ := exists_save_eq d
    rw [hd]
    exact .inr ⟨.inl rfl, rfl⟩
  | forget => exact .inr ⟨.inl rfl, rfl⟩
  | publish settings => exact .inr ⟨.inl rfl, rfl⟩
  | setMoreKeys showing =>
    obtain ⟨screen, retired, hd⟩ := exists_setMoreKeys_eq d showing
    rw [hd]
    exact .inr ⟨.inl rfl, rfl⟩

/-- **What a move does to the layout**: it stays, or is dropped, or an answer of the builder takes
its place. -/
theorem Move.layoutStep (h : Move env d d') : LayoutStep env d d' := by
  rcases h.prepared_or_layout with ⟨editor, settings, rfl⟩ | ⟨hlayout | hlayout, hbuilds⟩
  · exact layoutStep_prepare env d editor settings
  · exact .kept hlayout (Nat.le_of_eq hbuilds.symm)
  · exact .dropped hlayout (Nat.le_of_eq hbuilds.symm)

/-! ### Where layouts come from -/

/-- The layout, if there is one, is an answer to one of the questions counted. -/
def Sourced (env : Environment) (d : Dispatcher) : Prop :=
  ∀ layout, d.layout = some layout → ∃ n < d.builds, ∃ c, env.build n c = .ok layout

theorem Sourced.move (h : d.Sourced env) (hm : Move env d d') : d'.Sourced env := by
  intro layout hl
  cases hm.layoutStep with
  | kept hlayout hbuilds =>
    obtain ⟨n, hn, hc⟩ := h layout (hlayout.symm.trans hl)
    exact ⟨n, Nat.lt_of_lt_of_le hn hbuilds, hc⟩
  | dropped hlayout _ => cases hlayout.symm.trans hl
  | built hanswer hlayout hbuilds =>
    obtain rfl := Option.some.inj (hlayout.symm.trans hl)
    exact ⟨d.builds, hbuilds, _, hanswer⟩

namespace Sourced

variable (he : env.Steady) (h : d.Sourced env) {layout : Layout} (hl : d.layout = some layout)

include he h hl

theorem stamp_lt : layout.stamp < d.builds := by
  obtain ⟨n, hn, c, hc⟩ := h layout hl
  rw [he.stamp hc]
  exact hn

/-- **The layout is as good as a fresh one**: the builder, asked for its configuration now, would
give it again, up to the stamp. -/
theorem build_eq (stamp : Nat) :
    env.build stamp layout.configuration = .ok { layout with stamp := stamp } := by
  obtain ⟨n, -, c, hc⟩ := h layout hl
  obtain rfl := he.configuration hc
  exact he.again hc stamp

end Sourced

/-! ### Layouts of the past -/

/-- The layout of a stamp is past: the stamp was given away, and is not that of the layout. -/
structure Past (stamp : Nat) (d : Dispatcher) : Prop where
  given : stamp < d.builds
  replaced : ∀ layout, d.layout = some layout → layout.stamp ≠ stamp

/-- In a move the layout stays, or every stamp that was given before is past. -/
theorem LayoutStep.kept_or_past (he : env.Steady) {stamp : Nat} (hgiven : stamp < d.builds)
    (h : LayoutStep env d d') :
    d'.layout = d.layout ∧ d.builds ≤ d'.builds ∨ d'.Past stamp := by
  cases h with
  | kept hlayout hbuilds => exact .inl ⟨hlayout, hbuilds⟩
  | dropped hlayout hbuilds =>
    refine .inr ⟨by omega, fun layout hl => ?_⟩
    cases hlayout.symm.trans hl
  | built hanswer hlayout hbuilds =>
    refine .inr ⟨by omega, fun layout hl => ?_⟩
    obtain rfl := Option.some.inj (hlayout.symm.trans hl)
    -- the answer carries the number of the question, which is greater than all stamps given
    have hstamp := he.stamp hanswer
    omega

/-- What is past stays past. -/
theorem Past.move (he : env.Steady) {stamp : Nat} (h : d.Past stamp) (hm : Move env d d') :
    d'.Past stamp := by
  have hgiven := h.given
  rcases hm.layoutStep.kept_or_past he hgiven with ⟨hlayout, hbuilds⟩ | hpast
  · exact ⟨by omega, fun layout hl => h.replaced layout (hlayout.symm.trans hl)⟩
  · exact hpast

/-- A layout that was in use is in use still, or is past. -/
theorem eq_or_past_of_moves (he : env.Steady) (hs : d.Sourced env) {layout : Layout}
    (hl : d.layout = some layout) (hm : ReflTransGen (Move env) d d') :
    d'.layout = some layout ∨ d'.Past layout.stamp := by
  induction hm with
  | refl => exact .inl hl
  | @tail d₁ d₂ hm₁ hm₂ ih =>
    rcases ih with hin | hpast
    · have hgiven := (of_moves Sourced.move hs hm₁).stamp_lt he hin
      rcases hm₂.layoutStep.kept_or_past he hgiven with ⟨hlayout, -⟩ | hpast
      · exact .inl (hlayout.trans hin)
      · exact .inr hpast
    · exact .inr (hpast.move he hm₂)

end Dispatcher

end SoftKeyboard
