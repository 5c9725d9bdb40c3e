import SoftKeyboard.Dispatcher
import SoftKeyboard.Proofs.Surface.Showing

/-!
# The layer on the screen

The layer on the screen is read off the layout and the picture of the attached view: which surface
is visible, and which variant the main surface has (`Dispatcher.currentLayer?_congr`).

* Whether a layer can be shown depends only on whether there are a layout and an attached view.  A
  layer that can be shown is the layer on the screen afterwards, and one that cannot changes nothing
  but the reports (`Dispatcher.currentLayer?_select`).
* Whatever else happens to a dispatcher, apart from loads, either leaves the layer on the screen as
  it is or takes it away.
-/

namespace SoftKeyboard

/-! ### The picture of a view -/

/-- What an attached view shows: the visible surface, and the variant on the main surface. -/
def Screen.picture (s : Screen) : Pane × Option Variant :=
  (s.presenter.visible, s.presenter.variant)

namespace Dispatcher

variable {d d' : Dispatcher}

theorem currentLayer?_congr (hl : d'.layout = d.layout)
    (hp : d'.screen.map Screen.picture = d.screen.map Screen.picture) :
    d'.currentLayer? = d.currentLayer? := by
  unfold currentLayer? currentVariant? showsEmoji visible?
  rw [hl]
  -- the two dispatchers have views or not together
  cases hs : d.screen with
  | none =>
    rw [hs, Option.map_none, Option.map_eq_none_iff] at hp
    rw [hp]
  | some s =>
    rw [hs] at hp
    obtain ⟨s', hs', hp⟩ := Option.map_eq_some_iff.1 hp
    obtain ⟨hv, hvariant⟩ := Prod.mk.inj hp
    simp only [hs', Option.map_some, Option.bind_eq_bind, Option.bind_some, hv, hvariant]

theorem currentLayer?_of_screen_eq_none (h : d.screen = none) : d.currentLayer? = none := by
  unfold currentLayer? currentVariant? showsEmoji visible?
  rw [h]
  cases d.layout <;> rfl

theorem currentLayer?_of_visible_eq_emoji (h : d.visible? = some .emoji) :
    d.currentLayer? = some .emoji := by
  unfold currentLayer? showsEmoji
  rw [h]
  rfl

theorem currentLayer?_of_main {layout : Layout} {s : Screen} (hl : d.layout = some layout)
    (hs : d.screen = some s) (hv : s.presenter.visible = .main) :
    d.currentLayer? = (s.presenter.variant.filter layout.contains).map fun v => v.layer := by
  unfold currentLayer? currentVariant? showsEmoji visible?
  rw [hl, hs, Option.map_some, hv]
  rfl

/-- Without a layout nothing but the emoji panel can be on the screen. -/
theorem currentLayer?_of_layout_eq_none (h : d.layout = none) :
    d.currentLayer? = if d.showsEmoji then some .emoji else none := by
  unfold currentLayer? currentVariant?
  rw [h]
  rfl

/-- A view that was told nothing yet shows no layer. -/
theorem currentLayer?_of_presenter_eq {d : Dispatcher} {s : Screen} (hs : d.screen = some s)
    (hp : s.presenter = {}) : d.currentLayer? = none := by
  cases hl : d.layout with
  | none =>
    rw [currentLayer?_of_layout_eq_none hl, showsEmoji, visible?, hs, Option.map_some, hp]
    rfl
  | some layout =>
    rw [currentLayer?_of_main hl hs (by rw [hp]), hp]
    rfl

/-! ### Showing a layer -/

theorem select_of_layout_eq_none (layer : Layer) (h : d.layout = none) :
    d.select layer = (.error (.noLayout layer), d.note [.noLayout layer]) := by
  unfold select
  rw [h]

theorem select_of_screen_eq_none {layout : Layout} (layer : Layer) (hl : d.layout = some layout)
    (hs : d.screen = none) : d.select layer = (.error (.noView layer), d.note [.noView layer]) := by
  unfold select
  rw [hl, hs]

theorem select_of_eq_some {layout : Layout} {s : Screen} (layer : Layer)
    (hl : d.layout = some layout) (hs : d.screen = some s) :
    d.select layer = (.ok (), d.selectOn layout s layer) := by
  unfold select
  rw [hl, hs]

/-- A selection changes the attached view and reports; all else stays. -/
theorem exists_selectOn_eq (d : Dispatcher) (layout : Layout) (s : Screen) (layer : Layer) :
    ∃ s' notices, s.Change s' ∧ d.selectOn layout s layer =
      note { d with screen := some s' } notices := by
  unfold selectOn
  split
  · exact ⟨_, _, .showEmoji s _ _ _, rfl⟩
  · exact ⟨_, _, .showMain s _ _ _, rfl⟩

/-- A layer of the layout is the layer on the screen once it is shown. -/
theorem currentLayer?_selectOn {layout : Layout} (s : Screen) (layer : Layer)
    (hl : d.layout = some layout) : (d.selectOn layout s layer).currentLayer? = some layer := by
  unfold selectOn
  by_cases he : layer = .emoji
  · rw [if_pos he, he]
    refine currentLayer?_of_visible_eq_emoji ?_
    show some (s.presenter.showEmoji _ _ _).1.visible = some Pane.emoji
    rw [Presenter.visible_showEmoji]
  · rw [if_neg he]
    -- the variant on the main surface carries the stamp of the layout
    obtain ⟨w, hw, hsame⟩ := s.presenter.exists_variant_showMain (layout.get layer)
      (.derive d.live (layout.get layer) s.presenter.variant) d.live.hardwareKeyboard
    unfold Variant.isSame at hsame
    rw [Bool.and_eq_true, beq_iff_eq, beq_iff_eq, Layout.layer_get, Layout.stamp_get] at hsame
    have hcontains : layout.contains w = true := by
      rw [layout.contains_eq, hsame.2]
      exact beq_self_eq_true _
    refine (currentLayer?_of_main (by exact hl) rfl rfl).trans ?_
    show Option.map _ (Option.filter _ (s.presenter.showMain (layout.get layer)
      (.derive d.live (layout.get layer) s.presenter.variant)
      d.live.hardwareKeyboard).1.variant) = _
    rw [hw, Option.filter_some, if_pos hcontains, Option.map_some, hsame.1]

/-- **A selection that succeeds shows its layer**, and one that fails, for want of a layout or of a
view, leaves the layer on the screen as it is. -/
theorem currentLayer?_select (d : Dispatcher) (layer : Layer) :
    (d.select layer).1 = .ok () ∧ (d.select layer).2.currentLayer? = some layer ∨
      (∃ e, (d.select layer).1 = .error e) ∧ (d.layout = none ∨ d.screen = none) ∧
        (d.select layer).2.currentLayer? = d.currentLayer? := by
  cases hl : d.layout with
  | none =>
    rw [select_of_layout_eq_none layer hl]
    exact .inr ⟨⟨_, rfl⟩, .inl rfl, rfl⟩
  | some layout =>
    cases hs : d.screen with
    | none =>
      rw [select_of_screen_eq_none layer hl hs]
      exact .inr ⟨⟨_, rfl⟩, .inr rfl, rfl⟩
    | some s =>
      rw [select_of_eq_some layer hl hs]
      exact .inl ⟨rfl, currentLayer?_selectOn s layer hl⟩

theorem currentLayer?_of_select_ok {layer : Layer} (h : (d.select layer).1 = .ok ()) :
    (d.select layer).2.currentLayer? = some layer := by
  rcases d.currentLayer?_select layer with ⟨-, hs⟩ | ⟨⟨e, he⟩, -⟩
  · exact hs
  · cases he.symm.trans h

/-! ### What else happens to the layer on the screen -/

variable (d : Dispatcher)

/-- A change of theme drops the layout, and with it any layer but the emoji panel. -/
theorem currentLayer?_updateTheme (env : Environment) (id : ThemeId) :
    (d.updateTheme env id).2.currentLayer? = none ∨
      (d.updateTheme env id).2.currentLayer? = d.currentLayer? := by
  dsimp only [updateTheme]
  split_ifs
  · exact .inr rfl
  · rw [currentLayer?_of_layout_eq_none rfl]
    -- the theme does not touch the view
    show (if d.showsEmoji then some Layer.emoji else none) = none ∨
      (if d.showsEmoji then some Layer.emoji else none) = d.currentLayer?
    by_cases he : d.showsEmoji = true
    · right
      rw [if_pos he, currentLayer?, if_pos he]
    · left
      rw [if_neg he]

theorem currentLayer?_createView (env : Environment) (hardwareAcceleration : Bool) :
    (d.createView env hardwareAcceleration).2.currentLayer? = none :=
  currentLayer?_of_presenter_eq rfl rfl

theorem currentLayer?_destroyView : d.destroyView.2.currentLayer? = none := by
  unfold destroyView
  split
  · exact currentLayer?_of_screen_eq_none ‹_›
  · exact currentLayer?_of_screen_eq_none rfl

theorem currentLayer?_releaseResources : d.releaseResources.currentLayer? = d.currentLayer? := by
  unfold releaseResources
  split
  · rfl
  · rename_i s hs
    refine currentLayer?_congr rfl ?_
    rw [hs]
    rfl

theorem currentLayer?_setTimer (running : Bool) :
    (d.setTimer running).currentLayer? = d.currentLayer? := by
  refine currentLayer?_congr rfl ?_
  show (d.screen.map _).map _ = _
  rw [Option.map_map]
  rfl

theorem currentLayer?_hideWindow : d.hideWindow.currentLayer? = d.currentLayer? := by
  refine currentLayer?_congr rfl ?_
  show (d.screen.map _).map _ = _
  rw [Option.map_map]
  rfl

theorem currentLayer?_setMoreKeys (showing : Bool) :
    (d.setMoreKeys showing).2.currentLayer? = d.currentLayer? := by
  unfold Dispatcher.setMoreKeys
  split
  · rename_i s hs
    refine currentLayer?_congr rfl ?_
    rw [hs]
    rfl
  · rfl
  · rfl

theorem currentLayer?_save : d.save.2.currentLayer? = d.currentLayer? := by
  unfold save
  split <;> rfl

end Dispatcher

end SoftKeyboard
