import Mathlib.Data.List.Chain
import SoftKeyboard.Proofs.Surface.Showing

/-!
# The economy of a view's traffic

A presenter speaks only where something changes.

* `Presenter.Speaks`: on each channel, calls send the new value if that differs from the one
  remembered, and otherwise nothing.  Whatever happens to an attached view is of this kind
  (`Screen.Change.speaks`), and so is closing it (`Presenter.speaks_closingCalls`).
* `Record.Terse`: in a whole list of calls, what is shown and hidden, or started and stopped,
  alternates, and no padding and no variant is sent twice in a row.
* `Record.TerseFor` is the invariant that carries this: the last value of each channel is the one
  that the presenter remembers.  A fresh view has it (`Screen.terseFor_attach`), and calls of the
  kind above keep it (`Record.TerseFor.speak`).
-/

namespace SoftKeyboard

/-! ### Values that change -/

/-- The values alternate, beginning with `first`. -/
structure Alternating (first : Bool) (values : List Bool) : Prop where
  chain : values.IsChain (· ≠ ·)
  head : ∀ b ∈ values.head?, b = first

/-- The values alternate from `first` on, and `now` is the last of them, or the opposite of `first`
as long as there is none. -/
structure Alternates (first : Bool) (values : List Bool) (now : Bool) : Prop
    extends Alternating first values where
  last : values.getLast?.getD (!first) = now

/-- What is sent where a value is remembered and another one, or the same, takes its place. -/
def sent {α : Type} [DecidableEq α] (now next : α) : List α := if next = now then [] else [next]

theorem sent_self {α : Type} [DecidableEq α] (now : α) : sent now now = [] := if_pos rfl

/-- No value is the same as the one before it, and `now` is the last, if there is one. -/
structure Varies {α : Type} (same : α → α → Bool) (values : List α) (now : Option α) : Prop where
  chain : values.IsChain fun x y => same x y = false
  last : values.getLast? = now

theorem Varies.snoc {α : Type} {same : α → α → Bool} {values : List α} {now : Option α} {next : α}
    (h : Varies same values now) (hn : now.any (same · next) = false) :
    Varies same (values ++ [next]) (some next) := by
  refine ⟨h.chain.append (.singleton next) ?_, List.getLast?_concat ..⟩
  intro x hx y hy
  obtain rfl := Option.some.inj hy
  rw [h.last] at hx
  rw [Option.mem_def.1 hx] at hn
  exact hn

/-- The new value is sent if it is another one. -/
theorem Alternates.step {first now : Bool} {values : List Bool} (h : Alternates first values now)
    (next : Bool) : Alternates first (values ++ sent now next) next := by
  unfold sent
  split_ifs with hn
  · rw [List.append_nil, hn]
    exact h
  · refine ⟨⟨h.chain.append (.singleton next) ?_, ?_⟩, ?_⟩
    · intro x hx y hy
      obtain rfl := Option.some.inj hy
      have hlast := h.last
      rw [Option.mem_def.1 hx, Option.getD_some] at hlast
      rw [hlast]
      exact Ne.symm hn
    · intro b hb
      cases values with
      | nil =>
        -- the first value is the opposite of what was remembered
        obtain rfl := Option.some.inj hb
        have hlast : (!first) = now := h.last
        rw [← hlast] at hn
        exact Bool.eq_not_of_ne hn |>.trans (Bool.not_not first)
      | cons c values => exact h.head b hb
    · rw [List.getLast?_concat, Option.getD_some]

/-! ### What a presenter says -/

namespace Presenter

/-- The calls say of each channel what the presenter remembers afterwards, if that is new, and
otherwise nothing. -/
structure Speaks (p : Presenter) (calls : List SinkCall) (p' : Presenter) : Prop where
  frame : (Traffic.of calls).frame = sent p.frameVisible p'.frameVisible
  main : (Traffic.of calls).main = sent (p.visible == .main) (p'.visible == .main)
  emoji : (Traffic.of calls).emoji = sent (p.visible == .emoji) (p'.visible == .emoji)
  running : (Traffic.of calls).running = sent p.emojiStarted p'.emojiStarted
  padding : (Traffic.of calls).padding = [] ∧ p'.topPadding = p.topPadding ∨
    ∃ pixels, (Traffic.of calls).padding = [pixels] ∧ p'.topPadding = some pixels ∧
      p.topPadding ≠ some pixels
  drawn : (Traffic.of calls).drawn = [] ∧ p'.variant = p.variant ∨
    ∃ v, (Traffic.of calls).drawn = [v] ∧ p'.variant = some v ∧ p.draws v = false

variable (p : Presenter)

theorem speaks_showMain (v : Variant) (presentation : Presentation) (collapse : Bool) :
    p.Speaks (p.showMain v presentation collapse).2 (p.showMain v presentation collapse).1 := by
  constructor <;> rw [traffic_showMain] <;> dsimp only [showMain]
  case frame => simp only [sent, eq_comm]
  case main => cases p.visible <;> rfl
  case emoji => cases p.visible <;> rfl
  case running => cases p.emojiStarted <;> rfl
  case padding =>
    split_ifs with hp
    · exact .inl ⟨rfl, hp.symm⟩
    · exact .inr ⟨v.topPadding, rfl, rfl, hp⟩
  case drawn =>
    cases hd : p.draws v with
    | true => exact .inl ⟨rfl, rfl⟩
    | false => exact .inr ⟨v, rfl, rfl, hd⟩

theorem speaks_showEmoji (label : String) (look : Look) (icons : IconSet) :
    p.Speaks (p.showEmoji label look icons).2 (p.showEmoji label look icons).1 := by
  have hpadding := p.topPadding_showEmoji label look icons
  have hvariant := p.variant_showEmoji label look icons
  constructor <;> rw [traffic_showEmoji]
  case padding => exact .inl ⟨rfl, hpadding⟩
  case drawn => exact .inl ⟨rfl, hvariant⟩
  all_goals
    obtain ⟨visible, frame, started, padding, variant⟩ := p
    cases visible <;> cases frame <;> cases started <;> rfl

/-- Stopping the emoji panel, if it was started, is all that is said. -/
theorem speaks_of_stop {calls : List SinkCall}
    (h : Traffic.of calls = { running := if p.emojiStarted then [false] else [] }) :
    p.Speaks calls { p with emojiStarted := false } := by
  constructor <;> rw [h]
  case frame => exact (sent_self _).symm
  case main => exact (sent_self _).symm
  case emoji => exact (sent_self _).symm
  case running => cases p.emojiStarted <;> rfl
  case padding => exact .inl ⟨rfl, rfl⟩
  case drawn => exact .inl ⟨rfl, rfl⟩

theorem speaks_closingCalls : p.Speaks p.closingCalls { p with emojiStarted := false } :=
  p.speaks_of_stop p.traffic_closingCalls

/-- Nothing is said on any channel. -/
theorem speaks_of_silent {calls : List SinkCall} (h : Traffic.of calls = {}) :
    p.Speaks calls p := by
  constructor <;> rw [h]
  case frame => exact (sent_self _).symm
  case main => exact (sent_self _).symm
  case emoji => exact (sent_self _).symm
  case running => exact (sent_self _).symm
  case padding => exact .inl ⟨rfl, rfl⟩
  case drawn => exact .inl ⟨rfl, rfl⟩

end Presenter

/-- **Whatever happens to an attached view** is said where it makes a difference. -/
theorem Screen.Change.speaks {s s' : Screen} (h : s.Change s') :
    ∃ calls, s.presenter.Speaks calls s'.presenter ∧ s'.record.calls = s.record.calls ++ calls := by
  cases h with
  | showMain v presentation collapse =>
    exact ⟨_, s.presenter.speaks_showMain v presentation collapse, Record.calls_applyAll ..⟩
  | showEmoji label look icons =>
    exact ⟨_, s.presenter.speaks_showEmoji label look icons, Record.calls_applyAll ..⟩
  | releaseResources =>
    exact ⟨_, s.presenter.speaks_of_stop s.presenter.traffic_releaseResources,
      Record.calls_applyAll ..⟩
  | hideWindow => exact ⟨_, s.presenter.speaks_of_silent rfl, Record.calls_applyAll ..⟩
  | setTimer running => exact ⟨[], s.presenter.speaks_of_silent rfl, (List.append_nil _).symm⟩
  | setMoreKeys showing => exact ⟨[], s.presenter.speaks_of_silent rfl, (List.append_nil _).symm⟩

/-! ### Terse records -/

namespace Record

/-- No sink was told twice in a row what it was told already: what is shown and hidden, or started
and stopped, alternates, and no padding and no variant is sent twice in a row. -/
structure Terse (r : Record) : Prop where
  frame : Alternating true (Traffic.of r.calls).frame
  main : Alternating true (Traffic.of r.calls).main
  emoji : Alternating false (Traffic.of r.calls).emoji
  running : Alternating true (Traffic.of r.calls).running
  padding : (Traffic.of r.calls).padding.IsChain (· ≠ ·)
  drawn : (Traffic.of r.calls).drawn.IsChain fun v w => v.isSame w = false

/-- A record is terse, and the last value of each channel is the one that a presenter remembers. -/
structure TerseFor (r : Record) (p : Presenter) : Prop where
  frame : Alternates true (Traffic.of r.calls).frame p.frameVisible
  main : Alternates true (Traffic.of r.calls).main (p.visible == .main)
  emoji : Alternates false (Traffic.of r.calls).emoji (p.visible == .emoji)
  running : Alternates true (Traffic.of r.calls).running p.emojiStarted
  padding : Varies (· == ·) (Traffic.of r.calls).padding p.topPadding
  drawn : Varies Variant.isSame (Traffic.of r.calls).drawn p.variant

variable {r r' : Record} {p p' : Presenter}

theorem TerseFor.terse (h : r.TerseFor p) : r.Terse where
  frame := h.frame.toAlternating
  main := h.main.toAlternating
  emoji := h.emoji.toAlternating
  running := h.running.toAlternating
  padding := h.padding.chain.imp fun _ _ hne => ne_of_beq_false hne
  drawn := h.drawn.chain

/-- A record stays terse if its presenter says what is new. -/
theorem TerseFor.speak (h : r.TerseFor p) {calls : List SinkCall} (hs : p.Speaks calls p')
    (hc : r'.calls = r.calls ++ calls) : r'.TerseFor p' := by
  constructor <;> rw [hc, Traffic.of_append, Traffic.append]
  case frame =>
    rw [hs.frame]
    exact h.frame.step p'.frameVisible
  case main =>
    rw [hs.main]
    exact h.main.step (p'.visible == .main)
  case emoji =>
    rw [hs.emoji]
    exact h.emoji.step (p'.visible == .emoji)
  case running =>
    rw [hs.running]
    exact h.running.step p'.emojiStarted
  case padding =>
    rcases hs.padding with ⟨hnone, hkept⟩ | ⟨pixels, hone, hnew, hne⟩
    · rw [hnone, List.append_nil, hkept]
      exact h.padding
    · rw [hone, hnew]
      refine h.padding.snoc (Bool.eq_false_iff.2 fun hany => hne ?_)
      obtain ⟨old, hold, heq⟩ := (Option.any_eq_true ..).1 hany
      rw [hold, eq_of_beq heq]
  case drawn =>
    rcases hs.drawn with ⟨hnone, hkept⟩ | ⟨v, hone, hnew, hd⟩
    · rw [hnone, List.append_nil, hkept]
      exact h.drawn
    · rw [hone, hnew]
      exact h.drawn.snoc hd

/-! ### Changes of visibility -/

theorem countP_changesVisibility (calls : List SinkCall) :
    calls.countP SinkCall.changesVisibility =
      (Traffic.of calls).main.length + (Traffic.of calls).emoji.length := by
  unfold Traffic.of
  induction calls with
  | nil => rfl
  | cons c calls ih =>
    rw [List.countP_cons, ih]
    cases c <;> simp [SinkCall.changesVisibility, SinkCall.main?, SinkCall.emoji?,
      List.filterMap_cons] <;> omega

/-- **Exchanging the surfaces takes two calls**, and nothing else takes any of their kind. -/
theorem visibilityChanges_of_speaks {calls : List SinkCall} (hs : p.Speaks calls p')
    (hc : r'.calls = r.calls ++ calls) :
    r'.visibilityChanges = r.visibilityChanges + if p'.visible = p.visible then 0 else 2 := by
  unfold visibilityChanges
  rw [hc, List.countP_append, countP_changesVisibility calls, hs.main, hs.emoji]
  cases p.visible <;> cases p'.visible <;> rfl

end Record

namespace Screen

theorem terseFor_attach (view : Nat) (theme : String) (hardwareAcceleration listening : Bool) :
    (attach view theme hardwareAcceleration listening).record.TerseFor {} := by
  have hcalls : (attach view theme hardwareAcceleration listening).record.calls =
      Presenter.openingCalls :=
    Record.calls_applyAll ..
  constructor <;> rw [hcalls, Presenter.traffic_openingCalls]
  case frame => exact ⟨⟨.singleton _, fun _ h => (Option.some.inj h).symm⟩, rfl⟩
  case main => exact ⟨⟨.singleton _, fun _ h => (Option.some.inj h).symm⟩, rfl⟩
  case emoji => exact ⟨⟨.singleton _, fun _ h => (Option.some.inj h).symm⟩, rfl⟩
  case running => exact ⟨⟨.nil, fun _ h => nomatch h⟩, rfl⟩
  case padding => exact ⟨.nil, rfl⟩
  case drawn => exact ⟨.nil, rfl⟩

theorem visibilityChanges_attach (view : Nat) (theme : String)
    (hardwareAcceleration listening : Bool) :
    (attach view theme hardwareAcceleration listening).record.visibilityChanges = 2 := rfl

variable {s s' : Screen}

theorem terseFor_change (h : s.record.TerseFor s.presenter) (hc : s.Change s') :
    s'.record.TerseFor s'.presenter := by
  obtain ⟨calls, hs, hcalls⟩ := hc.speaks
  exact h.speak hs hcalls

theorem terse_close (h : s.record.TerseFor s.presenter) : s.close.1.Terse :=
  (h.speak s.presenter.speaks_closingCalls (Record.calls_applyAll ..)).terse

theorem visibilityChanges_change (hc : s.Change s') :
    s'.record.visibilityChanges = s.record.visibilityChanges +
      if s'.presenter.visible = s.presenter.visible then 0 else 2 := by
  obtain ⟨calls, hs, hcalls⟩ := hc.speaks
  exact Record.visibilityChanges_of_speaks hs hcalls

theorem visibilityChanges_close (s : Screen) :
    s.close.1.visibilityChanges = s.record.visibilityChanges := by
  show (s.record.applyAll s.presenter.closingCalls).visibilityChanges = _
  rw [Record.visibilityChanges_of_speaks s.presenter.speaks_closingCalls
    (Record.calls_applyAll ..), if_pos rfl, Nat.add_zero]

end Screen

end SoftKeyboard
