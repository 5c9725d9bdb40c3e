import SoftKeyboard.Proofs.Dispatcher.Layouts
import SoftKeyboard.Proofs.Dispatcher.Views

/-!
# The emoji panel of a dispatcher

The emoji panel is started with a label, a look and icons, and keeps them for as long as it runs.  A
selection starts it only if it is not running and visible already
(`Dispatcher.panel?_select_emoji`), so what a panel shows is what was right when it was started.

* `Dispatcher.Settled`: no panel runs behind a visible main surface.  All moves keep this.
* `Dispatcher.Voiced`: the texts speak the language of the layout's subtype.  All moves keep this.
* `Dispatcher.PanelFits`: a panel that is running and visible shows what a panel would be started
  with now.  All moves keep this but the preparation of a layout, which replaces layout and texts
  behind the panel.
-/

namespace SoftKeyboard

open Relation

/-! ### Panels -/

/-- What an emoji panel was started with last, as far as it was. -/
structure Panel where
  label : Option String
  look : Option Look
  icons : Option IconSet
  deriving DecidableEq, Repr

/-- What the emoji panel of a view was started with last. -/
def Record.panel (r : Record) : Panel := ⟨r.emojiLabel, r.emojiLook, r.emojiIcons⟩

/-- What a panel shows for a layout: the label of the key back in a language, the look of the
layout's theme and the icons of its alphabet. -/
def Layout.panel (layout : Layout) (language : Language) : Panel where
  label := some (Label.toAlphabet.text language)
  look := some (Theme.resolve layout.configuration.theme).look
  icons := some (layout.get .alphabet).icons

namespace Screen

/-- No panel runs behind a visible main surface. -/
def Settled (s : Screen) : Prop := s.presenter.emojiStarted = true → s.presenter.visible = .emoji

/-- A panel that is running and visible keeps what it was started with. -/
theorem panel_showEmoji {s : Screen} (h : s.Settled) (label : String) (look : Look)
    (icons : IconSet) :
    (s.showEmoji label look icons).1.record.panel =
      if s.presenter.showsEmoji then s.record.panel else ⟨some label, some look, some icons⟩ := by
  obtain ⟨⟨visible, frame, started, padding, variant⟩, record⟩ := s
  cases visible with
  | main =>
    cases started with
    | true => exact nomatch h rfl
    | false => cases frame <;> rfl
  | emoji => cases started <;> cases frame <;> rfl

end Screen

/-- A view starts settled, and every change leaves it so. -/
theorem lifeCycle_settled : Dispatcher.LifeCycle Screen.Settled fun _ => True where
  attach _ _ _ _ := fun h => nomatch h
  change s s' h hc := by
    cases hc with
    | showMain v presentation collapse => exact fun h => nomatch h
    | showEmoji label look icons =>
      exact fun _ => s.presenter.visible_showEmoji label look icons
    | releaseResources => exact fun h => nomatch h
    | hideWindow => exact h
    | setTimer running => exact h
    | setMoreKeys showing => exact h
  close _ _ := trivial
  setMoreKeys _ _ _ := trivial

namespace Dispatcher

variable {env : Environment} {d d' : Dispatcher} {layout : Layout} {layer : Layer}

/-- No panel runs behind a visible main surface. -/
def Settled (d : Dispatcher) : Prop := d.EveryView Screen.Settled fun _ => True

/-- What the panel on the screen was started with, if it is running and visible. -/
def panel? (d : Dispatcher) : Option Panel :=
  (d.screen.filter fun s => s.presenter.showsEmoji).map fun s => s.record.panel

theorem panel?_of_screen_eq_none (h : d.screen = none) : d.panel? = none := by
  rw [panel?, h]
  rfl

theorem panel?_of_screen {s : Screen} (h : d.screen = some s) :
    d.panel? = if s.presenter.showsEmoji then some s.record.panel else none := by
  rw [panel?, h, Option.filter_some]
  split_ifs <;> rfl

theorem exists_of_panel?_eq_some {panel : Panel} (h : d.panel? = some panel) :
    ∃ s, d.screen = some s ∧ s.presenter.visible = .emoji ∧ s.presenter.emojiStarted = true ∧
      s.record.panel = panel := by
  obtain ⟨s, hs, hpanel⟩ := Option.map_eq_some_iff.1 h
  obtain ⟨hs, hshows⟩ := Option.filter_eq_some_iff.1 hs
  obtain ⟨hvisible, hstarted⟩ := s.presenter.showsEmoji_iff.1 hshows
  exact ⟨s, hs, hvisible, hstarted, hpanel⟩

theorem panel?_congr (h : d'.screen = d.screen) : d'.panel? = d.panel? := by
  rw [panel?, panel?, h]

theorem panel?_map {f : Screen → Screen}
    (hf : ∀ s, (f s).presenter = s.presenter ∧ (f s).record.panel = s.record.panel) :
    ({ d with screen := d.screen.map f } : Dispatcher).panel? = d.panel? := by
  cases hs : d.screen with
  | none => rw [panel?_of_screen_eq_none hs, panel?_of_screen_eq_none rfl]
  | some s => rw [panel?_of_screen hs, panel?_of_screen (s := f s) rfl, (hf s).1, (hf s).2]

/-! ### What selections do to the panel -/

/-- **A selection of the emoji panel** leaves the panel that is running and visible as it is, and
starts one for the layout otherwise. -/
theorem panel?_select_emoji (hd : d.Settled) (hl : d.layout = some layout)
    (hs : d.screen ≠ none) :
    (d.select .emoji).2.panel? = some (d.panel?.getD (layout.panel d.texts.language)) := by
  obtain ⟨s, hs⟩ := Option.ne_none_iff_exists'.1 hs
  have hscreen : (d.selectOn layout s .emoji).screen = some (s.showEmoji (d.texts.text .toAlphabet)
      (Theme.resolve layout.configuration.theme).look (layout.get .alphabet).icons).1 := rfl
  rw [select_of_eq_some .emoji hl hs, panel?_of_screen hscreen]
  refine (if_pos (s.presenter.showsEmoji_showEmoji _ _ _)).trans ?_
  rw [Screen.panel_showEmoji (hd.attached s hs), panel?_of_screen hs]
  split_ifs <;> rfl

/-- A selection of any other layer takes the panel off the screen. -/
theorem panel?_select_of_ne (hl : d.layout = some layout) (hne : layer ≠ .emoji) :
    (d.select layer).2.panel? = none := by
  rcases Option.eq_none_or_eq_some d.screen with hs | ⟨s, hs⟩
  · rw [select_of_screen_eq_none layer hl hs]
    exact panel?_of_screen_eq_none hs
  · rw [select_of_eq_some layer hl hs, selectOn, if_neg hne]
    rfl

/-! ### Panels that fit -/

/-- The panel that is running and visible shows what a panel would be started with now. -/
def PanelFits (d : Dispatcher) : Prop :=
  ∀ layout panel, d.layout = some layout → d.panel? = some panel →
    panel = layout.panel d.texts.language

theorem PanelFits.mono (h : d.PanelFits) (hp : d'.panel? = d.panel? ∨ d'.panel? = none)
    (hl : d'.layout = d.layout ∨ d'.layout = none) (ht : d'.texts = d.texts) : d'.PanelFits := by
  intro layout panel hlayout hpanel
  rcases hl with hl | hl
  · rcases hp with hp | hp
    · rw [ht]
      exact h layout panel (hl.symm.trans hlayout) (hp.symm.trans hpanel)
    · cases hp.symm.trans hpanel
  · cases hl.symm.trans hlayout

/-- No panel fits badly that is not there. -/
theorem panelFits_of_panel?_eq_none (h : d.panel? = none) : d.PanelFits :=
  fun _ _ _ hp => nomatch h.symm.trans hp

theorem PanelFits.select (h : d.PanelFits) (hd : d.Settled) (layer : Layer) :
    (d.select layer).2.PanelFits := by
  rcases Option.eq_none_or_eq_some d.layout with hl | ⟨layout, hl⟩
  · rw [select_of_layout_eq_none layer hl]
    exact h.mono (.inl rfl) (.inl rfl) rfl
  · by_cases hs : d.screen = none
    · rw [select_of_screen_eq_none layer hl hs]
      exact h.mono (.inl rfl) (.inl rfl) rfl
    · by_cases he : layer = .emoji
      · subst he
        have hsame := d.sameHoldings_select .emoji
        intro layout' panel hl' hp
        obtain rfl := Option.some.inj (hl.symm.trans (hsame.layout.symm.trans hl'))
        rw [panel?_select_emoji hd hl hs, Option.some_inj] at hp
        rw [hsame.texts, ← hp]
        -- the panel is the one that was there, which fits, or a new one
        cases hpanel : d.panel? with
        | none => rfl
        | some panel => exact h layout panel hl hpanel
      · exact panelFits_of_panel?_eq_none (panel?_select_of_ne hl he)

theorem PanelFits.request (h : d.PanelFits) (hd : d.Settled) (hr : Request d d') :
    d'.PanelFits := by
  cases hr with
  | select layer => exact h.select hd layer
  | setTimer running => exact h.mono (.inl (panel?_map fun _ => ⟨rfl, rfl⟩)) (.inl rfl) rfl
  | queue pending => exact h.mono (.inl rfl) (.inl rfl) rfl
  | note notices => exact h.mono (.inl rfl) (.inl rfl) rfl

/-- What leaves the views and the texts alone leaves the panel fitting. -/
theorem PanelFits.of_sameViews (h : d.PanelFits) (hv : d.SameViews d')
    (hl : d'.layout = d.layout ∨ d'.layout = none) (ht : d'.texts = d.texts) : d'.PanelFits :=
  h.mono (.inl (panel?_congr hv.1)) hl ht

theorem PanelFits.updateTheme (h : d.PanelFits) (env : Environment) (id : ThemeId) :
    (d.updateTheme env id).2.PanelFits := by
  rcases updateTheme_cases env d id with ⟨notices, hu⟩ | ⟨notices, hu⟩ <;> rw [hu]
  · exact h.of_sameViews ⟨rfl, rfl⟩ (.inl rfl) rfl
  · exact h.of_sameViews ⟨rfl, rfl⟩ (.inr rfl) rfl

theorem panelFits_createView (env : Environment) (d : Dispatcher) (hardwareAcceleration : Bool) :
    (d.createView env hardwareAcceleration).2.PanelFits := by
  obtain ⟨view, name, theme, retired, notices, hc⟩ :=
    exists_createView_eq env d hardwareAcceleration
  rw [hc]
  exact panelFits_of_panel?_eq_none rfl

theorem panelFits_destroyView (d : Dispatcher) : d.destroyView.2.PanelFits := by
  obtain ⟨retired, notices, hd⟩ := exists_destroyView_eq d
  rw [hd]
  exact panelFits_of_panel?_eq_none rfl

theorem panelFits_releaseResources (d : Dispatcher) : d.releaseResources.PanelFits := by
  refine panelFits_of_panel?_eq_none ?_
  unfold releaseResources
  split
  · exact panel?_of_screen_eq_none ‹_›
  · rename_i s hs
    have hstopped : s.releaseResources.1.presenter.showsEmoji = false := Bool.and_false _
    exact (panel?_of_screen rfl).trans (if_neg (Bool.eq_false_iff.1 hstopped))

theorem PanelFits.hideWindow (h : d.PanelFits) : d.hideWindow.PanelFits :=
  h.mono (.inl (panel?_map fun _ => ⟨rfl, rfl⟩)) (.inl rfl) rfl

theorem PanelFits.setMoreKeys (h : d.PanelFits) (showing : Bool) :
    (d.setMoreKeys showing).2.PanelFits := by
  unfold Dispatcher.setMoreKeys
  split
  · rename_i s hs
    refine h.mono (.inl ?_) (.inl rfl) rfl
    rw [panel?_of_screen hs, panel?_of_screen rfl]
    rfl
  · exact h.mono (.inl rfl) (.inl rfl) rfl
  · exact h

/-- The emoji panel is in order: no panel runs unseen, and one that is seen fits. -/
structure PanelInOrder (d : Dispatcher) : Prop where
  settled : d.Settled
  fits : d.PanelFits

theorem PanelInOrder.requests (h : d.PanelInOrder) (hr : ReflTransGen Request d d') :
    d'.PanelInOrder := by
  induction hr with
  | refl => exact h
  | tail _ hr ih =>
    exact ⟨lifeCycle_settled.everyView_request ih.settled hr, ih.fits.request ih.settled hr⟩

/-! ### The language of the texts -/

/-- The texts speak the language of the layout's subtype, if its locale is a language tag. -/
def Voiced (d : Dispatcher) : Prop :=
  ∀ layout language, d.layout = some layout →
    Locale.languageOf layout.configuration.subtype.locale = .ok language →
    d.texts.language = .ofSubtag language

theorem Voiced.mono (h : d.Voiced) (hl : d'.layout = d.layout ∨ d'.layout = none)
    (ht : d'.texts = d.texts) : d'.Voiced := by
  intro layout language hlayout hlanguage
  rcases hl with hl | hl
  · rw [ht]
    exact h layout language (hl.symm.trans hlayout) hlanguage
  · cases hl.symm.trans hlayout

/-- Preparing a layout switches the texts to the locale of the layout's subtype. -/
theorem Voiced.prepare (he : env.Steady) (h : d.Voiced) (editor : Editor) (settings : Settings) :
    (d.prepare env editor settings).2.Voiced := by
  have hconfiguration := d.configuration?_prepare env editor settings he
  rcases d.prepare_cases env editor settings with
    ⟨-, theme, builds, notices, hp⟩ | ⟨e, theme, builds, notices, hp⟩
  · rw [hp] at hconfiguration ⊢
    intro layout language hl hlanguage
    -- the layout has the configuration that was derived, whose subtype is that of the settings
    replace hl : d.loadedLayout? env editor settings = some layout := hl
    have hc := hconfiguration rfl
    rw [configuration?, hl, Option.map_some, Option.some_inj] at hc
    rw [hc] at hlanguage
    show (d.texts.setLocale settings.subtype.locale).language = _
    rw [Texts.setLocale, show Locale.languageOf settings.subtype.locale = _ from hlanguage]
  · rw [hp]
    exact h.mono (.inl rfl) rfl

theorem Voiced.move (he : env.Steady) (h : d.Voiced) (hm : Move env d d') : d'.Voiced := by
  cases hm with
  | request hr => exact h.mono (.inl hr.sameHoldings.layout) hr.sameHoldings.texts
  | updateTheme id =>
    rcases updateTheme_cases env d id with ⟨notices, hu⟩ | ⟨notices, hu⟩ <;> rw [hu]
    · exact h.mono (.inl rfl) rfl
    · exact h.mono (.inr rfl) rfl
  | prepare editor settings => exact h.prepare he editor settings
  | createView hardwareAcceleration =>
    obtain ⟨view, name, theme, retired, notices, hd⟩ :=
      exists_createView_eq env d hardwareAcceleration
    rw [hd]
    exact h.mono (.inl rfl) rfl
  | destroyView =>
    obtain ⟨retired, notices, hd⟩ := exists_destroyView_eq d
    rw [hd]
    exact h.mono (.inl rfl) rfl
  | releaseResources =>
    obtain ⟨screen, notices, hd⟩ := exists_releaseResources_eq d
    rw [hd]
    exact h.mono (.inl rfl) rfl
  | hideWindow => exact h.mono (.inl rfl) rfl
  | save =>
    obtain ⟨saved, notices, hd⟩ := exists_save_eq d
    rw [hd]
    exact h.mono (.inl rfl) rfl
  | forget => exact h.mono (.inl rfl) rfl
  | publish settings => exact h.mono (.inl rfl) rfl
  | setMoreKeys showing =>
    obtain ⟨screen, retired, hd⟩ := exists_setMoreKeys_eq d showing
    rw [hd]
    exact h.mono (.inl rfl) rfl

end Dispatcher

end SoftKeyboard
