import Mathlib.Tactic.SplitIfs
import SoftKeyboard.Surface.Screen

/-!
# The traffic to the sinks of a view

The calls to a view fall into channels: one for each thing that a sink can be told.  `Traffic.of`
sorts a list of calls by channel, and `Traffic.of_append` says that it does so call by call.

* A record holds the last value of every channel (`Record.applyAll_last` and its instances).
* What a presenter's operation sends on each channel is `traffic_showMain`, `traffic_showEmoji`,
  `traffic_releaseResources` and `traffic_closingCalls`.
-/

namespace SoftKeyboard

/-! ### Channels -/

namespace SinkCall

/-- What the frame is told about being visible. -/
def frame? : SinkCall → Option Bool
  | frameVisible visible => some visible
  | _ => none

/-- What the main surface is told about being visible. -/
def main? : SinkCall → Option Bool
  | mainVisible visible => some visible
  | _ => none

/-- What the emoji panel is told about being visible. -/
def emoji? : SinkCall → Option Bool
  | emojiVisible visible => some visible
  | _ => none

/-- Whether the emoji panel is started or stopped. -/
def running? : SinkCall → Option Bool
  | emojiStart _ _ _ => some true
  | emojiStop => some false
  | _ => none

/-- The padding that the frame is given. -/
def padding? : SinkCall → Option UInt32
  | topPadding pixels => some pixels
  | _ => none

/-- The variant that the main surface is given. -/
def drawn? : SinkCall → Option Variant
  | draw v => some v
  | _ => none

/-- The presentation that the main surface is given. -/
def presented? : SinkCall → Option Presentation
  | present p => some p
  | _ => none

end SinkCall

/-- Calls sorted by channel, in each channel the oldest first. -/
structure Traffic where
  frame : List Bool := []
  main : List Bool := []
  emoji : List Bool := []
  running : List Bool := []
  padding : List UInt32 := []
  drawn : List Variant := []
  presented : List Presentation := []

namespace Traffic

/-- The traffic that calls make. -/
def of (calls : List SinkCall) : Traffic where
  frame := calls.filterMap SinkCall.frame?
  main := calls.filterMap SinkCall.main?
  emoji := calls.filterMap SinkCall.emoji?
  running := calls.filterMap SinkCall.running?
  padding := calls.filterMap SinkCall.padding?
  drawn := calls.filterMap SinkCall.drawn?
  presented := calls.filterMap SinkCall.presented?

/-- One traffic after another. -/
def append (t u : Traffic) : Traffic where
  frame := t.frame ++ u.frame
  main := t.main ++ u.main
  emoji := t.emoji ++ u.emoji
  running := t.running ++ u.running
  padding := t.padding ++ u.padding
  drawn := t.drawn ++ u.drawn
  presented := t.presented ++ u.presented

theorem of_append (calls more : List SinkCall) :
    of (calls ++ more) = (of calls).append (of more) := by
  simp only [of, append, List.filterMap_append]

end Traffic

/-! ### Records -/

namespace Record

@[simp]
theorem calls_applyAll (r : Record) (calls : List SinkCall) :
    (r.applyAll calls).calls = r.calls ++ calls := by
  induction calls generalizing r with
  | nil => exact (List.append_nil r.calls).symm
  | cons c calls ih =>
    have hc : (r.apply c).calls = r.calls ++ [c] := by cases c <;> rfl
    show ((r.apply c).applyAll calls).calls = _
    rw [ih, hc, List.append_assoc, List.singleton_append]

/-- The traffic to a view goes on with the calls that are added. -/
theorem traffic_applyAll (r : Record) (calls : List SinkCall) :
    Traffic.of (r.applyAll calls).calls = (Traffic.of r.calls).append (Traffic.of calls) := by
  rw [calls_applyAll, Traffic.of_append]

/-- A field that each call sets to what it sends on a channel, and leaves alone if it sends nothing
there, ends up with the last value of the channel. -/
theorem applyAll_last {α : Type} (field : Record → α) (channel : SinkCall → Option α)
    (h : ∀ r c, field (r.apply c) = (channel c).getD (field r)) (r : Record)
    (calls : List SinkCall) :
    field (r.applyAll calls) = (calls.filterMap channel).getLast?.getD (field r) := by
  induction calls generalizing r with
  | nil => rfl
  | cons c calls ih =>
    show field ((r.apply c).applyAll calls) = _
    rw [ih, h, List.filterMap_cons]
    cases channel c with
    | none => rfl
    | some a => rw [Option.getD_some, List.getLast?_cons, Option.getD_some]

/-- No call changes the number of the view. -/
theorem view_applyAll (r : Record) (calls : List SinkCall) : (r.applyAll calls).view = r.view := by
  induction calls generalizing r with
  | nil => rfl
  | cons c calls ih =>
    show ((r.apply c).applyAll calls).view = _
    rw [ih]
    cases c <;> rfl

theorem frameVisible_applyAll (r : Record) (calls : List SinkCall) :
    (r.applyAll calls).frameVisible = (Traffic.of calls).frame.getLast?.getD r.frameVisible :=
  applyAll_last Record.frameVisible SinkCall.frame? (fun _ c => by cases c <;> rfl) r calls

theorem mainVisible_applyAll (r : Record) (calls : List SinkCall) :
    (r.applyAll calls).mainVisible = (Traffic.of calls).main.getLast?.getD r.mainVisible :=
  applyAll_last Record.mainVisible SinkCall.main? (fun _ c => by cases c <;> rfl) r calls

theorem emojiVisible_applyAll (r : Record) (calls : List SinkCall) :
    (r.applyAll calls).emojiVisible = (Traffic.of calls).emoji.getLast?.getD r.emojiVisible :=
  applyAll_last Record.emojiVisible SinkCall.emoji? (fun _ c => by cases c <;> rfl) r calls

theorem emojiRunning_applyAll (r : Record) (calls : List SinkCall) :
    (r.applyAll calls).emojiRunning = (Traffic.of calls).running.getLast?.getD r.emojiRunning :=
  applyAll_last Record.emojiRunning SinkCall.running? (fun _ c => by cases c <;> rfl) r calls

theorem topPadding_applyAll (r : Record) (calls : List SinkCall) :
    (r.applyAll calls).topPadding = (Traffic.of calls).padding.getLast?.getD r.topPadding :=
  applyAll_last Record.topPadding SinkCall.padding? (fun _ c => by cases c <;> rfl) r calls

/-- The main surface keeps the last variant that it is given. -/
theorem variant_applyAll (r : Record) (calls : List SinkCall) :
    (r.applyAll calls).variant = (Traffic.of calls).drawn.getLast?.or r.variant := by
  have h := applyAll_last Record.variant (fun c => c.drawn?.map some)
    (fun _ c => by cases c <;> rfl) r calls
  rw [h, ← List.map_filterMap, List.getLast?_map, Traffic.of]
  cases (calls.filterMap SinkCall.drawn?).getLast? <;> rfl

/-- The main surface keeps the last presentation that it is given. -/
theorem presentation_applyAll (r : Record) (calls : List SinkCall) :
    (r.applyAll calls).presentation =
      (Traffic.of calls).presented.getLast?.or r.presentation := by
  have h := applyAll_last Record.presentation (fun c => c.presented?.map some)
    (fun _ c => by cases c <;> rfl) r calls
  rw [h, ← List.map_filterMap, List.getLast?_map, Traffic.of]
  cases (calls.filterMap SinkCall.presented?).getLast? <;> rfl

/-- Presentations are counted. -/
theorem presented_applyAll (r : Record) (calls : List SinkCall) :
    (r.applyAll calls).presented = r.presented + (Traffic.of calls).presented.length := by
  induction calls generalizing r with
  | nil => rfl
  | cons c calls ih =>
    have hc : (r.apply c).presented = r.presented + c.presented?.toList.length := by
      cases c <;> rfl
    have hcalls : (Traffic.of (c :: calls)).presented =
        c.presented?.toList ++ (Traffic.of calls).presented := by
      cases c <;> rfl
    show ((r.apply c).applyAll calls).presented = _
    rw [ih, hc, hcalls, List.length_append, Nat.add_assoc]

end Record

/-! ### What a presenter sends -/

namespace Presenter

variable (p : Presenter)

theorem traffic_openingCalls :
    Traffic.of openingCalls = { frame := [true], main := [true], emoji := [false] } := rfl

theorem traffic_showMain (v : Variant) (presentation : Presentation) (collapse : Bool) :
    Traffic.of (p.showMain v presentation collapse).2 =
      { frame := if p.frameVisible = !collapse then [] else [!collapse]
        main := if p.visible = .emoji then [true] else []
        emoji := if p.visible = .emoji then [false] else []
        running := if p.emojiStarted then [false] else []
        padding := if p.topPadding = some v.topPadding then [] else [v.topPadding]
        drawn := if p.draws v then [] else [v]
        presented := [presentation] } := by
  unfold showMain stopCalls frameCalls
  split_ifs <;> rfl

/-- A panel that is running and visible is told nothing. -/
theorem traffic_showEmoji (label : String) (look : Look) (icons : IconSet) :
    Traffic.of (p.showEmoji label look icons).2 =
      { frame := if !p.showsEmoji && p.frameVisible then [false] else []
        main := if p.visible = .main then [false] else []
        emoji := if p.visible = .main then [true] else []
        running := if p.emojiStarted then [] else [true] } := by
  obtain ⟨visible, frame, started, padding, variant⟩ := p
  cases visible <;> cases frame <;> cases started <;> rfl

theorem traffic_releaseResources :
    Traffic.of p.releaseResources.2 = { running := if p.emojiStarted then [false] else [] } := by
  unfold releaseResources stopCalls
  split_ifs <;> rfl

theorem traffic_closingCalls :
    Traffic.of p.closingCalls = { running := if p.emojiStarted then [false] else [] } := by
  unfold closingCalls stopCalls
  split_ifs <;> rfl

end Presenter

end SoftKeyboard
