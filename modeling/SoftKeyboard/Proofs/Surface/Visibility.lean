import SoftKeyboard.Proofs.Surface.Traffic

/-!
# Visibility of the surfaces of a view

The main surface, its frame and the emoji panel share one place on the screen.  A `Visibility` says
which of them are shown; it is *exclusive* if the emoji panel is shown alone, if at all.

* `Screen.InStep`: the record of a view agrees with what its presenter remembers.
* `Record.Exclusive`: at no point of a record's list of calls is the emoji panel shown together with
  the main surface or the frame.
* `Screen.Change` lists what may happen to an attached view.  A fresh view has both properties
  (`inStep_attach`, `exclusive_attach`), every change keeps them (`InStep.change`,
  `exclusive_change`), and closing keeps the second (`exclusive_close`).

The presenter's operations are not atomic: while the panes are exchanged neither is shown.  So the
second property is proved call by call, from the visibility that the presenter remembers.
-/

namespace SoftKeyboard

/-! ### Exclusive visibility -/

/-- Which of the three sinks of a view are shown. -/
structure Visibility where
  frame : Bool := false
  main : Bool := false
  emoji : Bool := false
  deriving DecidableEq, Repr

namespace Visibility

/-- The visibility after a call. -/
def after (v : Visibility) (c : SinkCall) : Visibility :=
  ⟨c.frame?.getD v.frame, c.main?.getD v.main, c.emoji?.getD v.emoji⟩

/-- The emoji panel is shown neither with the main surface nor with the frame. -/
def isExclusive (v : Visibility) : Bool := !(v.emoji && (v.main || v.frame))

theorem isExclusive_iff (v : Visibility) :
    v.isExclusive = true ↔
      ¬(v.main = true ∧ v.emoji = true) ∧ ¬(v.emoji = true ∧ v.frame = true) := by
  obtain ⟨frame, main, emoji⟩ := v
  cases frame <;> cases main <;> cases emoji <;> decide

/-- The emoji panel is alone, if it is shown at all, before each call and after the last. -/
def staysExclusive : Visibility → List SinkCall → Bool
  | v, [] => v.isExclusive
  | v, c :: calls => v.isExclusive && staysExclusive (v.after c) calls

theorem staysExclusive_append (v : Visibility) (calls more : List SinkCall) :
    v.staysExclusive (calls ++ more) =
      (v.staysExclusive calls && (calls.foldl after v).staysExclusive more) := by
  induction calls generalizing v with
  | nil =>
    show v.staysExclusive more = (v.isExclusive && v.staysExclusive more)
    cases more with
    | nil => exact (Bool.and_self _).symm
    | cons c more => simp only [staysExclusive, ← Bool.and_assoc, Bool.and_self]
  | cons c calls ih =>
    simp only [List.cons_append, staysExclusive, ih, List.foldl_cons, Bool.and_assoc]

/-- A list of calls that stays exclusive is so at each of its prefixes. -/
theorem isExclusive_of_prefix {v : Visibility} {calls before : List SinkCall}
    (h : v.staysExclusive calls = true) (hp : before <+: calls) :
    (before.foldl after v).isExclusive = true := by
  obtain ⟨rest, rfl⟩ := hp
  rw [staysExclusive_append, Bool.and_eq_true] at h
  obtain ⟨-, h⟩ := h
  cases rest with
  | nil => exact h
  | cons c rest => exact (Bool.and_eq_true _ _ ▸ h).1

end Visibility

namespace Record

/-- What the record says is shown. -/
def visibility (r : Record) : Visibility := ⟨r.frameVisible, r.mainVisible, r.emojiVisible⟩

theorem visibility_applyAll (r : Record) (calls : List SinkCall) :
    (r.applyAll calls).visibility = calls.foldl Visibility.after r.visibility := by
  induction calls generalizing r with
  | nil => rfl
  | cons c calls ih =>
    have hc : (r.apply c).visibility = r.visibility.after c := by cases c <;> rfl
    show ((r.apply c).applyAll calls).visibility = _
    rw [ih, hc, List.foldl_cons]

/-- The record of the same view before its first call. -/
def blank (r : Record) : Record where
  view := r.view
  theme := r.theme
  hardwareAcceleration := r.hardwareAcceleration
  listening := r.listening

/-- The record shows what its calls, made to a fresh view, amount to, and on the way there the emoji
panel was never shown together with the main surface or the frame. -/
structure Exclusive (r : Record) : Prop where
  visibility : r.visibility = r.calls.foldl Visibility.after {}
  stays : ({} : Visibility).staysExclusive r.calls = true

/-- Calls that stay exclusive from what is shown keep a record exclusive. -/
theorem Exclusive.applyAll {r : Record} (h : r.Exclusive) {calls : List SinkCall}
    (hc : r.visibility.staysExclusive calls = true) : (r.applyAll calls).Exclusive where
  visibility := by
    rw [visibility_applyAll, calls_applyAll, List.foldl_append, h.visibility]
  stays := by
    rw [calls_applyAll, Visibility.staysExclusive_append, h.stays, Bool.true_and, ← h.visibility]
    exact hc

/-- **Exclusion at every point of the log**: whatever prefix of an exclusive record's calls is made
to a fresh view, the emoji panel is not shown together with the main surface or the frame. -/
theorem Exclusive.applyAll_blank {r : Record} (h : r.Exclusive) {before : List SinkCall}
    (hp : before <+: r.calls) :
    ¬((r.blank.applyAll before).mainVisible = true ∧
      (r.blank.applyAll before).emojiVisible = true) ∧
    ¬((r.blank.applyAll before).emojiVisible = true ∧
      (r.blank.applyAll before).frameVisible = true) := by
  have hv : (r.blank.applyAll before).visibility = before.foldl Visibility.after {} :=
    r.blank.visibility_applyAll before
  have he := Visibility.isExclusive_of_prefix h.stays hp
  rw [← hv, Visibility.isExclusive_iff] at he
  exact he

end Record

/-! ### What a presenter shows -/

namespace Presenter

/-- What the presenter takes to be shown. -/
def shown (p : Presenter) : Visibility := ⟨p.frameVisible, p.visible == .main, p.visible == .emoji⟩

variable {p : Presenter}

theorem staysExclusive_showMain (h : p.shown.isExclusive = true) (v : Variant)
    (presentation : Presentation) (collapse : Bool) :
    p.shown.staysExclusive (p.showMain v presentation collapse).2 = true := by
  unfold showMain stopCalls frameCalls
  obtain ⟨visible, frame, started, padding, variant⟩ := p
  cases visible with
  | main => cases frame <;> cases collapse <;> split_ifs <;> rfl
  | emoji =>
    -- the panel is alone, so the frame is hidden until the panes are exchanged
    cases frame with
    | true => contradiction
    | false => cases collapse <;> split_ifs <;> first | rfl | contradiction

theorem staysExclusive_showEmoji (h : p.shown.isExclusive = true) (label : String) (look : Look)
    (icons : IconSet) : p.shown.staysExclusive (p.showEmoji label look icons).2 = true := by
  obtain ⟨visible, frame, started, padding, variant⟩ := p
  cases visible with
  | main => cases frame <;> cases started <;> rfl
  | emoji =>
    cases frame with
    | true => contradiction
    | false => cases started <;> rfl

theorem foldl_after_stopCalls (p : Presenter) :
    p.stopCalls.foldl Visibility.after p.shown = p.shown := by
  unfold stopCalls
  split_ifs <;> rfl

theorem staysExclusive_stopCalls (h : p.shown.isExclusive = true) :
    p.shown.staysExclusive p.stopCalls = true := by
  unfold stopCalls
  split_ifs
  · show (p.shown.isExclusive && p.shown.isExclusive) = true
    rw [h, Bool.and_self]
  · exact h

theorem staysExclusive_releaseResources (h : p.shown.isExclusive = true) :
    p.shown.staysExclusive p.releaseResources.2 = true := by
  show (p.shown.isExclusive && (p.shown.isExclusive && p.shown.staysExclusive p.stopCalls)) = true
  rw [h, staysExclusive_stopCalls h, Bool.and_self, Bool.and_self]

theorem staysExclusive_closingCalls (h : p.shown.isExclusive = true) :
    p.shown.staysExclusive p.closingCalls = true := by
  rw [closingCalls, Visibility.staysExclusive_append, staysExclusive_stopCalls h,
    foldl_after_stopCalls]
  show (true && (p.shown.isExclusive && p.shown.isExclusive)) = true
  rw [h, Bool.and_self, Bool.and_self]

/-- What a presenter remembers after calls: on every channel the last value that it sent, or what it
remembered before if it sent none. -/
structure Remembers (p : Presenter) (calls : List SinkCall) (p' : Presenter) : Prop where
  frame : p'.frameVisible = (Traffic.of calls).frame.getLast?.getD p.frameVisible
  main : (p'.visible == .main) = (Traffic.of calls).main.getLast?.getD (p.visible == .main)
  emoji : (p'.visible == .emoji) = (Traffic.of calls).emoji.getLast?.getD (p.visible == .emoji)
  running : p'.emojiStarted = (Traffic.of calls).running.getLast?.getD p.emojiStarted
  padding : p'.topPadding = (Traffic.of calls).padding.getLast?.or p.topPadding
  variant : p'.variant = (Traffic.of calls).drawn.getLast?.or p.variant

theorem remembers_showMain (p : Presenter) (v : Variant) (presentation : Presentation)
    (collapse : Bool) :
    p.Remembers (p.showMain v presentation collapse).2 (p.showMain v presentation collapse).1 := by
  constructor <;> rw [traffic_showMain] <;> dsimp only [showMain]
  · split_ifs with h
    · exact h.symm
    · rfl
  · cases p.visible <;> rfl
  · cases p.visible <;> rfl
  · cases p.emojiStarted <;> rfl
  · split_ifs with h
    · exact h.symm
    · rfl
  · split_ifs <;> rfl

theorem remembers_showEmoji (p : Presenter) (label : String) (look : Look) (icons : IconSet) :
    p.Remembers (p.showEmoji label look icons).2 (p.showEmoji label look icons).1 := by
  obtain ⟨visible, frame, started, padding, variant⟩ := p
  cases visible <;> cases frame <;> cases started <;> constructor <;> rfl

theorem remembers_releaseResources (p : Presenter) :
    p.Remembers p.releaseResources.2 p.releaseResources.1 := by
  constructor <;> rw [traffic_releaseResources] <;> try rfl
  dsimp only [releaseResources]
  cases p.emojiStarted <;> rfl

end Presenter

/-! ### Views in step -/

namespace Screen

/-- The record of a view agrees with what its presenter remembers: on what is shown, on whether the
emoji panel runs, on the variant, and on the padding once one was sent. -/
structure InStep (s : Screen) : Prop where
  frame : s.record.frameVisible = s.presenter.frameVisible
  main : s.record.mainVisible = (s.presenter.visible == .main)
  emoji : s.record.emojiVisible = (s.presenter.visible == .emoji)
  running : s.record.emojiRunning = s.presenter.emojiStarted
  variant : s.record.variant = s.presenter.variant
  /-- The presenter remembers a padding exactly when it has sent one. -/
  padding : s.presenter.topPadding = (Traffic.of s.record.calls).padding.getLast?
  topPadding : ∀ pixels, s.presenter.topPadding = some pixels → s.record.topPadding = pixels

variable {s : Screen}

theorem InStep.visibility (h : s.InStep) : s.record.visibility = s.presenter.shown := by
  unfold Record.visibility Presenter.shown
  rw [h.frame, h.main, h.emoji]

/-- A view stays in step if its presenter remembers the calls that it makes. -/
theorem InStep.tell (h : s.InStep) {p : Presenter} {calls : List SinkCall}
    (hp : s.presenter.Remembers calls p) : (s.tell p calls).InStep where
  frame := by
    show (s.record.applyAll calls).frameVisible = p.frameVisible
    rw [Record.frameVisible_applyAll, h.frame, hp.frame]
  main := by
    show (s.record.applyAll calls).mainVisible = (p.visible == .main)
    rw [Record.mainVisible_applyAll, h.main, hp.main]
  emoji := by
    show (s.record.applyAll calls).emojiVisible = (p.visible == .emoji)
    rw [Record.emojiVisible_applyAll, h.emoji, hp.emoji]
  running := by
    show (s.record.applyAll calls).emojiRunning = p.emojiStarted
    rw [Record.emojiRunning_applyAll, h.running, hp.running]
  variant := by
    show (s.record.applyAll calls).variant = p.variant
    rw [Record.variant_applyAll, h.variant, hp.variant]
  padding := by
    show p.topPadding = (Traffic.of (s.record.applyAll calls).calls).padding.getLast?
    rw [Record.calls_applyAll, Traffic.of_append, Traffic.append, List.getLast?_append, ← h.padding]
    exact hp.padding
  topPadding := by
    intro pixels hpixels
    show (s.record.applyAll calls).topPadding = pixels
    rw [Record.topPadding_applyAll]
    have hsent : (Traffic.of calls).padding.getLast?.or s.presenter.topPadding = some pixels :=
      hp.padding ▸ hpixels
    cases hlast : (Traffic.of calls).padding.getLast? with
    | none => exact h.topPadding pixels (by rwa [hlast] at hsent)
    | some sent => exact Option.some.inj (by rwa [hlast] at hsent)

theorem inStep_attach (view : Nat) (theme : String) (hardwareAcceleration listening : Bool) :
    (attach view theme hardwareAcceleration listening).InStep :=
  ⟨rfl, rfl, rfl, rfl, rfl, rfl, fun _ h => nomatch h⟩

theorem exclusive_attach (view : Nat) (theme : String) (hardwareAcceleration listening : Bool) :
    (attach view theme hardwareAcceleration listening).record.Exclusive :=
  ⟨rfl, rfl⟩

/-! ### Changes of an attached view -/

/-- What may happen to an attached view. -/
inductive Change : Screen → Screen → Prop where
  | showMain (s : Screen) (v : Variant) (presentation : Presentation) (collapse : Bool) :
    Change s (s.showMain v presentation collapse).1
  | showEmoji (s : Screen) (label : String) (look : Look) (icons : IconSet) :
    Change s (s.showEmoji label look icons).1
  | releaseResources (s : Screen) : Change s s.releaseResources.1
  | hideWindow (s : Screen) : Change s s.hideWindow
  | setTimer (s : Screen) (running : Bool) : Change s (s.setTimer running)
  | setMoreKeys (s : Screen) (showing : Bool) : Change s (s.setMoreKeys showing)

theorem Change.view_eq {s' : Screen} (h : s.Change s') : s'.view = s.view := by
  cases h with
  | showMain v presentation collapse => exact s.record.view_applyAll _
  | showEmoji label look icons => exact s.record.view_applyAll _
  | releaseResources => exact s.record.view_applyAll _
  | hideWindow => exact s.record.view_applyAll _
  | setTimer running => rfl
  | setMoreKeys showing => rfl

theorem InStep.change {s' : Screen} (h : s.InStep) (hc : s.Change s') : s'.InStep := by
  cases hc with
  | showMain v presentation collapse => exact h.tell (Presenter.remembers_showMain ..)
  | showEmoji label look icons => exact h.tell (Presenter.remembers_showEmoji ..)
  | releaseResources => exact h.tell (Presenter.remembers_releaseResources _)
  | hideWindow => exact h.tell ⟨rfl, rfl, rfl, rfl, rfl, rfl⟩
  | setTimer running => exact ⟨h.1, h.2, h.3, h.4, h.5, h.6, h.7⟩
  | setMoreKeys showing => exact ⟨h.1, h.2, h.3, h.4, h.5, h.6, h.7⟩

/-- The panel of a view in step is alone, if it is shown at all. -/
theorem isExclusive_shown (h : s.InStep) (he : s.record.Exclusive) :
    s.presenter.shown.isExclusive = true := by
  rw [← h.visibility, he.visibility]
  exact Visibility.isExclusive_of_prefix he.stays List.prefix_rfl

/-- No change of a view in step shows the emoji panel together with the main surface or the frame,
not even between two calls. -/
theorem exclusive_change {s' : Screen} (h : s.InStep) (he : s.record.Exclusive) (hc : s.Change s') :
    s'.record.Exclusive := by
  have hs := isExclusive_shown h he
  cases hc with
  | showMain v presentation collapse =>
    exact he.applyAll (h.visibility ▸ Presenter.staysExclusive_showMain hs v presentation collapse)
  | showEmoji label look icons =>
    exact he.applyAll (h.visibility ▸ Presenter.staysExclusive_showEmoji hs label look icons)
  | releaseResources =>
    exact he.applyAll (h.visibility ▸ Presenter.staysExclusive_releaseResources hs)
  | hideWindow =>
    refine he.applyAll ?_
    show (s.record.visibility.isExclusive && s.record.visibility.isExclusive) = true
    rw [h.visibility, hs, Bool.and_self]
  | setTimer running => exact ⟨he.visibility, he.stays⟩
  | setMoreKeys showing => exact ⟨he.visibility, he.stays⟩

theorem exclusive_close (h : s.InStep) (he : s.record.Exclusive) : s.close.1.Exclusive :=
  he.applyAll (h.visibility ▸ Presenter.staysExclusive_closingCalls (isExclusive_shown h he))

end Screen

end SoftKeyboard
