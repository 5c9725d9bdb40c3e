import Mathlib.Data.List.TakeWhile
import SoftKeyboard.Machine.Basic
import SoftKeyboard.Proofs.Keyboard.Reports
import SoftKeyboard.Session

/-!
# A session is its calls

A session drives its keyboard as a host does that makes the calls itself.  `Message.call?` lists
the call that each message stands for, `Session.direct` is the keyboard after these calls,
`Session.log` what is reported meanwhile, and `Session.answer` what is answered to a message, from
the messages before it.  The messages come in batches, since a sender is told something else
depending on whether a message still met the session at work.

* `Session.handle_of_call`: a session makes the calls of the list, and reports those that fail.
* `Session.Tracks`: an open session has the keyboard of the host but for its reports, and goes on
  having it with every message (`Session.Tracks.exists_handle`).
* `Session.EndsAs`: what a session comes to (`Session.endsAs_drain`); how its messages are divided
  into batches makes no difference to that (`Session.run_snd`).
* `Session.answers_run`: what is answered to each message of each batch.

`Session.run_eq_direct` puts them together, for the messages and for the same ones without the
questions among them.
-/

namespace SoftKeyboard

open Keyboard

/-- The call that a host makes itself instead of sending a message. -/
def Message.call? : Message → Option Operation
  | updateTheme id => some (.command (.updateTheme id))
  | load request settings => some (.command (.load request settings))
  | toggleEmoji request => some (.command (.toggleEmoji request))
  | createView hardwareAcceleration => some (.command (.createView hardwareAcceleration))
  | destroyView => some (.command .destroyView)
  | releaseResources => some (.command .releaseResources)
  | hideWindow => some (.command .hideWindow)
  | save => some (.command .save)
  | restore => some (.command .restore)
  | press code singlePointer c => some (.command (.input (.press code singlePointer) c))
  | release code sliding c => some (.command (.input (.release code sliding) c))
  | finishSliding c => some (.command (.input .finishSliding c))
  | event e c => some (.command (.input (.event e) c))
  | updateShift c => some (.command (.input .updateShift c))
  | reset c => some (.command (.input .reset c))
  | inspect | shutdown => none

/-- Each command can be sent. -/
theorem Message.call?_command (c : Command) : (command c).call? = some (.command c) := by
  cases c with
  | input i c => cases i <;> rfl
  | _ => rfl

namespace Session

variable {σ : Type} {a : Assembly σ} {s : Session σ} {k : Keyboard σ}

/-! ### The direct way -/

/-- The calls that messages stand for. -/
def calls (messages : List Message) : List Operation := messages.filterMap Message.call?

/-- The messages before the first shutdown. -/
def beforeShutdown (messages : List Message) : List Message := messages.takeWhile (· ≠ .shutdown)

/-- The keyboard after the calls that messages stand for. -/
def direct (a : Assembly σ) (k : Keyboard σ) (messages : List Message) : Keyboard σ :=
  k.performAll a (calls messages)

/-- What is reported of a call beside its own reports: the error if it fails, and the theme if it
replaces one. -/
def remarks (call : Operation) (reply : Reply) : List Notice :=
  match reply.error?, call, reply with
  | some e, _, _ => [.commandFailed e]
  | none, .command (.updateTheme id), .changed true => [.themeChanged id]
  | none, _, _ => []

/-- What is reported while calls are made, from the first to the last. -/
def log (a : Assembly σ) : Keyboard σ → List Operation → List Notice
  | _, [] => []
  | k, call :: calls =>
    let (reply, after) := k.perform a call
    k.reports a call ++ remarks call reply ++ log a after calls

/-- The answer to a message: `sent` are the messages of earlier batches, and `earlier` those before
the message in its own. -/
def answer (a : Assembly σ) (k : Keyboard σ) (sent earlier : List Message) : Message → Answer
  | .inspect =>
    if .shutdown ∈ sent ++ earlier then .closed
    else .snapshot (direct a k (sent ++ earlier)).snapshot
  | _ => if .shutdown ∈ sent then .closed else .accepted

theorem direct_append (earlier later : List Message) :
    direct a k (earlier ++ later) = direct a (direct a k earlier) later := by
  simp only [direct, calls, performAll, List.filterMap_append, List.foldl_append]

theorem log_calls_cons (message : Message) (later : List Message) :
    log a k (calls (message :: later)) =
      log a k (calls [message]) ++ log a (direct a k [message]) (calls later) := by
  unfold direct calls
  rw [List.filterMap_cons, List.filterMap_cons, List.filterMap_nil]
  cases message.call? with
  | none => rfl
  | some call => exact congrArg (· ++ _) (List.append_nil _).symm

/-! ### Calls -/

theorem note_nil (d : Dispatcher) : d.note [] = d :=
  congrArg (fun notices => { d with notices }) (List.append_nil d.notices)

/-- A session that has handled a message is left with a keyboard. -/
def settled (s : Session σ) (k : Keyboard σ) : Answer × Session σ :=
  (.accepted, { s with keyboard := k, handled := s.handled + 1 })

/-- The error of an outcome is remarked on, and nothing else is. -/
theorem report_outcome (call : Operation) (outcome : Outcome) (d : Dispatcher) :
    (match outcome with
      | .ok () => d
      | .error e => d.note [.commandFailed e]) =
      d.note (remarks call (.outcome outcome)) := by
  cases outcome with
  | error e => rfl
  | ok =>
    have hnone : remarks call (.outcome (.ok ())) = [] := by
      unfold remarks
      split <;> simp_all [Reply.error?]
    rw [hnone, note_nil]

/-- **A message makes its call.**  The session counts it, and adds to the reports of the call what
there is to remark on it. -/
theorem handle_of_call {message : Message} {call : Operation} (h : message.call? = some call) :
    s.handle a message =
      s.settled
        (let (reply, k) := s.keyboard.perform a call
        k.withDispatcher (k.dispatcher.note (remarks call reply))) := by
  cases message with
  | inspect | shutdown => cases h
  | updateTheme id =>
    obtain rfl := Option.some.inj h
    rcases hcall : s.keyboard.dispatcher.updateTheme a.toEnvironment id with ⟨_ | _, d⟩ <;>
      simp [handle, settled, apply, perform, obey, remarks, Reply.error?, hcall, note_nil,
        withDispatcher]
  | toggleEmoji request =>
    obtain rfl := Option.some.inj h
    rcases hcall : s.keyboard.toggleEmoji a request with ⟨_ | _, k⟩ <;>
      simp [handle, settled, apply, perform, obey, remarks, Reply.error?, hcall, note_nil,
        Except.map]
  | restore =>
    obtain rfl := Option.some.inj h
    rcases hcall : s.keyboard.restore with ⟨_ | _, k⟩ <;>
      simp [handle, settled, apply, perform, obey, remarks, Reply.error?, hcall, note_nil,
        Except.map]
  | createView | destroyView | releaseResources | hideWindow | save =>
    -- these calls do not fail
    obtain rfl := Option.some.inj h
    exact congrArg (fun d => s.settled (withDispatcher _ d)) (note_nil _).symm
  | load | press | release | finishSliding | event | updateShift | reset =>
    obtain rfl := Option.some.inj h
    exact congrArg (fun d => s.settled (withDispatcher _ d)) (report_outcome _ _ _)

/-! ### Open sessions -/

/-- An open session has the keyboard of a host that makes the calls itself, but for the reports. -/
structure Tracks (s : Session σ) (k : Keyboard σ) : Prop where
  isOpen : s.isOpen = true
  keyboard : k.SameButReports s.keyboard

namespace Tracks

/-- **A message is handled as the host's call**, or is a question that is answered with what can be
seen of the host's keyboard. -/
theorem exists_handle (h : s.Tracks k) {message : Message} (hm : message ≠ .shutdown) :
    ∃ s' : Session σ, s.handle a message = (answer a k [] [] message, s') ∧
      s'.Tracks (direct a k [message]) ∧ s'.handled = s.handled + 1 ∧
      s'.keyboard.dispatcher.notices =
        s.keyboard.dispatcher.notices ++ log a k (calls [message]) := by
  cases hcall : message.call? with
  | none =>
    have hinspect : message = .inspect := by
      cases message with
      | inspect => rfl
      | shutdown => exact absurd rfl hm
      | _ => cases hcall
    subst hinspect
    refine ⟨{ s with handled := s.handled + 1 }, ?_, ⟨h.isOpen, h.keyboard⟩, rfl,
      (List.append_nil _).symm⟩
    exact congrArg (fun snapshot => (Answer.snapshot snapshot, _)) h.keyboard.snapshot_eq
  | some call =>
    have hcalls : calls [message] = [call] := by
      rw [calls, List.filterMap_cons_some hcall, List.filterMap_nil]
    have hanswer : answer a k [] [] message = .accepted := by
      cases message with
      | inspect => cases hcall
      | _ => rfl
    have hreply : (s.keyboard.perform a call).1 = (k.perform a call).1 :=
      h.keyboard.reply_eq a call
    have hkeyboard : (k.perform a call).2.SameButReports (s.keyboard.perform a call).2 :=
      h.keyboard.perform a call
    have hnotices : (s.keyboard.perform a call).2.dispatcher.notices = _ :=
      notices_perform a s.keyboard call
    rw [h.keyboard.reports_eq] at hnotices
    rw [handle_of_call hcall, hanswer, direct, hcalls]
    refine ⟨_, rfl, ⟨h.isOpen, hkeyboard.trans (sameButReports_note _ _)⟩, rfl, ?_⟩
    show (s.keyboard.perform a call).2.dispatcher.notices ++
      remarks call (s.keyboard.perform a call).1 =
        _ ++ (k.reports a call ++ remarks call (k.perform a call).1 ++ [])
    rw [hnotices, hreply, List.append_nil, List.append_assoc]

end Tracks

theorem drain_cons_of_isOpen (hs : s.isOpen = true) (message : Message) (messages : List Message) :
    drain a s (message :: messages) =
      ((s.handle a message).1 :: (drain a (s.handle a message).2 messages).1,
        (drain a (s.handle a message).2 messages).2) := by
  rw [drain, if_pos hs]

/-- A message that is sent alone is handled at once. -/
theorem send_singleton (s : Session σ) (message : Message) :
    s.send a [message] = ([(s.step a message).1], (s.step a message).2) := by
  unfold send step
  split_ifs with hs
  · exact drain_cons_of_isOpen hs message []
  · rfl

/-! ### Sessions that were shut down -/

/-- What waits in the queue of a session that was shut down is dropped. -/
theorem drain_of_closed (h : s.isOpen = false) (messages : List Message) :
    drain a s messages = (messages.map Message.dropped, s) := by
  induction messages with
  | nil => rfl
  | cons message messages ih =>
    rw [drain, h]
    dsimp only
    rw [if_neg Bool.false_ne_true, ih]
    rfl

theorem run_cons (batch : List Message) (batches : List (List Message)) :
    run a s (batch :: batches) =
      ((s.send a batch).1 :: (run a (s.send a batch).2 batches).1,
        (run a (s.send a batch).2 batches).2) := rfl

/-- Whatever is sent to such a session is refused. -/
theorem run_of_closed (h : s.isOpen = false) (batches : List (List Message)) :
    run a s batches = (batches.map fun batch => batch.map fun _ => .closed, s) := by
  induction batches with
  | nil => rfl
  | cons batch batches ih =>
    have hsend : s.send a batch = (batch.map fun _ => .closed, s) := by
      rw [send, h, if_neg Bool.false_ne_true]
    rw [run_cons, hsend, ih]
    rfl

theorem drain_append (earlier later : List Message) :
    (drain a s (earlier ++ later)).2 = (drain a (drain a s earlier).2 later).2 := by
  induction earlier generalizing s with
  | nil => rfl
  | cons message earlier ih => exact ih

/-! ### Until the shutdown -/

theorem beforeShutdown_cons {message : Message} (h : message ≠ .shutdown)
    (messages : List Message) :
    beforeShutdown (message :: messages) = message :: beforeShutdown messages :=
  List.takeWhile_cons_of_pos (decide_eq_true h)

theorem beforeShutdown_shutdown_cons (messages : List Message) :
    beforeShutdown (.shutdown :: messages) = [] :=
  List.takeWhile_cons_of_neg (by simp)

theorem beforeShutdown_of_not_mem {messages : List Message} (h : .shutdown ∉ messages) :
    beforeShutdown messages = messages :=
  List.takeWhile_eq_self_iff.2 fun _ hm => decide_eq_true fun heq => h (heq ▸ hm)

/-- What a session comes to by messages: it has handled those before the first shutdown, and the
calls of these were made and reported. -/
structure EndsAs (a : Assembly σ) (s : Session σ) (k : Keyboard σ) (messages : List Message)
    (s' : Session σ) : Prop where
  handled : s'.handled = s.handled + (beforeShutdown messages).length
  isOpen : s'.isOpen = true ↔ .shutdown ∉ messages
  keyboard : (direct a k (beforeShutdown messages)).SameButReports s'.keyboard
  notices : s'.keyboard.dispatcher.notices =
    s.keyboard.dispatcher.notices ++ log a k (calls (beforeShutdown messages)) ++
      if .shutdown ∈ messages then [.sessionShutDown s'.handled] else []

namespace EndsAs

theorem nil (h : s.Tracks k) : EndsAs a s k [] s where
  handled := rfl
  isOpen := iff_of_true h.isOpen List.not_mem_nil
  keyboard := h.keyboard
  notices := by
    rw [if_neg List.not_mem_nil, List.append_nil]
    exact (List.append_nil _).symm

theorem shutdown (h : s.Tracks k) (messages : List Message) :
    EndsAs a s k (.shutdown :: messages) (s.handle a .shutdown).2 where
  handled := by
    rw [beforeShutdown_shutdown_cons]
    rfl
  isOpen := iff_of_false (fun h => nomatch h) (not_not_intro List.mem_cons_self)
  keyboard := by
    rw [beforeShutdown_shutdown_cons]
    exact h.keyboard.trans (sameButReports_note _ _)
  notices := by
    rw [beforeShutdown_shutdown_cons, if_pos List.mem_cons_self]
    exact congrArg (· ++ _) (List.append_nil _).symm

/-- A session that goes on after a message. -/
theorem cons {message : Message} {messages : List Message} {s₁ s' : Session σ}
    (hm : message ≠ .shutdown) (hhandled : s₁.handled = s.handled + 1)
    (hnotices : s₁.keyboard.dispatcher.notices =
      s.keyboard.dispatcher.notices ++ log a k (calls [message]))
    (h : EndsAs a s₁ (direct a k [message]) messages s') :
    EndsAs a s k (message :: messages) s' where
  handled := by
    rw [beforeShutdown_cons hm, List.length_cons, h.handled, hhandled]
    omega
  isOpen := by rw [h.isOpen, List.mem_cons, not_or, and_iff_right hm.symm]
  keyboard := by
    rw [beforeShutdown_cons hm, ← List.singleton_append, direct_append]
    exact h.keyboard
  notices := by
    have hmem : Message.shutdown ∈ message :: messages ↔ .shutdown ∈ messages := by
      rw [List.mem_cons, or_iff_right hm.symm]
    simp only [hmem]
    rw [h.notices, hnotices, beforeShutdown_cons hm,
      log_calls_cons message (beforeShutdown messages), ← List.append_assoc _ (log ..)]

end EndsAs

theorem endsAs_drain (h : s.Tracks k) (messages : List Message) :
    EndsAs a s k messages (drain a s messages).2 := by
  induction messages generalizing s k with
  | nil => exact .nil h
  | cons message messages ih =>
    rw [drain_cons_of_isOpen h.isOpen]
    by_cases hm : message = .shutdown
    · subst hm
      have hclosed : (s.handle a .shutdown).2.isOpen = false := rfl
      rw [drain_of_closed hclosed]
      exact .shutdown h messages
    · obtain ⟨s', hs', htracks, hhandled, hnotices⟩ := h.exists_handle (a := a) hm
      rw [hs']
      exact .cons hm hhandled hnotices (ih htracks)

/-- How messages are divided into batches makes no difference to what a session comes to. -/
theorem run_snd (batches : List (List Message)) :
    (run a s batches).2 = (drain a s batches.flatten).2 := by
  induction batches generalizing s with
  | nil => rfl
  | cons batch batches ih =>
    have hsend : (s.send a batch).2 = (s.drain a batch).2 := by
      unfold send
      cases hs : s.isOpen with
      | true => rfl
      | false => rw [if_neg Bool.false_ne_true, drain_of_closed hs]
    rw [run_cons, ih, List.flatten_cons, drain_append, hsend]

/-! ### What is answered to messages -/

theorem answer_shutdown_cons (earlier : List Message) (message : Message) :
    answer a k [] (.shutdown :: earlier) message = message.dropped := by
  cases message with
  | inspect => simp [answer, Message.dropped]
  | _ => rfl

theorem answer_cons {first : Message} (h : first ≠ .shutdown) (earlier : List Message)
    (message : Message) :
    answer a k [] (first :: earlier) message =
      answer a (direct a k [first]) [] earlier message := by
  have hmem : Message.shutdown ∈ first :: earlier ↔ .shutdown ∈ earlier := by
    rw [List.mem_cons, or_iff_right h.symm]
  cases message with
  | inspect =>
    simp only [answer, List.nil_append, hmem]
    rw [← List.singleton_append, direct_append]
  | _ => rfl

theorem answer_append_of_mem {batch : List Message} (h : .shutdown ∈ batch)
    (sent earlier : List Message) (message : Message) :
    answer a k (batch ++ sent) earlier message = .closed := by
  have hsent : Message.shutdown ∈ batch ++ sent := List.mem_append_left sent h
  cases message with
  | inspect => exact if_pos (List.mem_append_left earlier hsent)
  | _ => exact if_pos hsent

theorem answer_append_of_not_mem {batch : List Message} (h : .shutdown ∉ batch)
    (sent earlier : List Message) (message : Message) :
    answer a k (batch ++ sent) earlier message =
      answer a (direct a k batch) sent earlier message := by
  have hmem : ∀ later, Message.shutdown ∈ batch ++ later ↔ .shutdown ∈ later := fun later => by
    rw [List.mem_append, or_iff_right h]
  cases message with
  | inspect => simp only [answer, List.append_assoc, hmem, direct_append]
  | _ => simp only [answer, hmem]

/-- What is answered to the messages of a queue. -/
theorem answers_drain (h : s.Tracks k) (messages : List Message) :
    (drain a s messages).1 =
      messages.mapIdx fun i message => answer a k [] (messages.take i) message := by
  induction messages generalizing s k with
  | nil => rfl
  | cons first messages ih =>
    rw [drain_cons_of_isOpen h.isOpen, List.mapIdx_cons]
    by_cases hm : first = .shutdown
    · subst hm
      have hclosed : (s.handle a .shutdown).2.isOpen = false := rfl
      have hdropped : messages.map Message.dropped = messages.mapIdx fun i message =>
          answer a k [] (.shutdown :: messages.take i) message := by
        refine List.ext_getElem (by simp) fun i hi hi' => ?_
        rw [List.getElem_map, List.getElem_mapIdx, answer_shutdown_cons]
      rw [drain_of_closed hclosed, hdropped]
      rfl
    · obtain ⟨s', hs', htracks, -, -⟩ := h.exists_handle (a := a) hm
      rw [hs', ih htracks]
      refine congrArg (List.cons _) (congrArg (fun f => List.mapIdx f messages) ?_)
      funext i message
      exact (answer_cons hm (messages.take i) message).symm

/-- What is answered to messages in batches. -/
def answers (a : Assembly σ) (k : Keyboard σ) (batches : List (List Message)) :
    List (List Answer) :=
  batches.mapIdx fun i batch =>
    batch.mapIdx fun j message =>
      answer a k (batches.take i).flatten (batch.take j) message

theorem answers_cons (batch : List Message) (batches : List (List Message)) :
    answers a k (batch :: batches) =
      (batch.mapIdx fun j message => answer a k [] (batch.take j) message) ::
        batches.mapIdx fun i later => later.mapIdx fun j message =>
          answer a k (batch ++ (batches.take i).flatten) (later.take j) message :=
  List.mapIdx_cons

theorem answers_run (h : s.Tracks k) (batches : List (List Message)) :
    (run a s batches).1 = answers a k batches := by
  induction batches generalizing s k with
  | nil => rfl
  | cons batch batches ih =>
    have hends := endsAs_drain h (a := a) batch
    have hsend : s.send a batch = s.drain a batch := if_pos h.isOpen
    rw [run_cons, hsend, answers_drain h, answers_cons]
    refine congrArg (List.cons _) ?_
    by_cases hm : .shutdown ∈ batch
    · -- all later batches are refused
      have hclosed : (s.drain a batch).2.isOpen = false := by
        rw [Bool.eq_false_iff]
        exact fun hopen => hends.isOpen.1 hopen hm
      rw [run_of_closed hclosed]
      refine List.ext_getElem (by simp) fun i hi hi' => ?_
      rw [List.getElem_map, List.getElem_mapIdx]
      refine List.ext_getElem (by simp) fun j hj hj' => ?_
      rw [List.getElem_map, List.getElem_mapIdx, answer_append_of_mem hm]
    · have htracks : (s.drain a batch).2.Tracks (direct a k batch) := by
        refine ⟨hends.isOpen.2 hm, ?_⟩
        have hkeyboard := hends.keyboard
        rw [beforeShutdown_of_not_mem hm] at hkeyboard
        exact hkeyboard
      rw [ih htracks]
      simp only [answers, answer_append_of_not_mem hm]

/-! ### Questions -/

/-- The messages without the questions among them. -/
def withoutInspect (messages : List Message) : List Message := messages.filter (· ≠ .inspect)

/-- Messages with their answers, without the questions among them. -/
def withoutSnapshots (answered : List (Message × Answer)) : List (Message × Answer) :=
  answered.filter fun p => p.1 ≠ .inspect

theorem withoutInspect_cons {message : Message} (h : message ≠ .inspect)
    (messages : List Message) :
    withoutInspect (message :: messages) = message :: withoutInspect messages :=
  List.filter_cons_of_pos (decide_eq_true h)

theorem withoutInspect_inspect_cons (messages : List Message) :
    withoutInspect (.inspect :: messages) = withoutInspect messages :=
  List.filter_cons_of_neg (by simp)

theorem withoutSnapshots_cons {message : Message} (h : message ≠ .inspect) (told : Answer)
    (answered : List (Message × Answer)) :
    withoutSnapshots ((message, told) :: answered) =
      (message, told) :: withoutSnapshots answered :=
  List.filter_cons_of_pos (decide_eq_true h)

theorem withoutSnapshots_inspect_cons (told : Answer) (answered : List (Message × Answer)) :
    withoutSnapshots ((.inspect, told) :: answered) = withoutSnapshots answered :=
  List.filter_cons_of_neg (by simp)

theorem shutdown_mem_withoutInspect (messages : List Message) :
    .shutdown ∈ withoutInspect messages ↔ .shutdown ∈ messages := by
  simp [withoutInspect]

theorem flatten_map_withoutInspect (batches : List (List Message)) :
    (batches.map withoutInspect).flatten = withoutInspect batches.flatten :=
  List.filter_flatten.symm

/-- The calls before the first shutdown are the same without the questions. -/
theorem calls_withoutInspect (messages : List Message) :
    calls (beforeShutdown (withoutInspect messages)) = calls (beforeShutdown messages) := by
  induction messages with
  | nil => rfl
  | cons message messages ih =>
    by_cases hinspect : message = .inspect
    · subst hinspect
      have hshutdown : Message.inspect ≠ .shutdown := fun h => nomatch h
      rw [withoutInspect_inspect_cons, beforeShutdown_cons hshutdown]
      exact ih
    · rw [withoutInspect_cons hinspect]
      by_cases hshutdown : message = .shutdown
      · subst hshutdown
        rw [beforeShutdown_shutdown_cons, beforeShutdown_shutdown_cons]
      · rw [beforeShutdown_cons hshutdown, beforeShutdown_cons hshutdown]
        unfold calls at ih ⊢
        rw [List.filterMap_cons, List.filterMap_cons, ih]

theorem answer_of_ne_inspect {message : Message} (h : message ≠ .inspect)
    (sent earlier : List Message) :
    answer a k sent earlier message = if .shutdown ∈ sent then .closed else .accepted := by
  cases message with
  | inspect => exact absurd rfl h
  | _ => rfl

section

variable {f : ℕ → Message → Answer} {told : Answer}
  (h : ∀ i message, message ≠ .inspect → f i message = told) (messages : List Message)

include h

/-- Where all messages but questions are answered alike, so they are without the questions. -/
theorem zip_mapIdx_withoutInspect :
    (withoutInspect messages).zip ((withoutInspect messages).mapIdx f) =
      (withoutInspect messages).map fun message => (message, told) := by
  have hne : ∀ message ∈ withoutInspect messages, message ≠ .inspect := fun message hmem =>
    of_decide_eq_true (List.mem_filter.1 hmem).2
  refine List.ext_getElem (by simp) fun i hi hi' => ?_
  rw [List.getElem_zip, List.getElem_mapIdx, List.getElem_map,
    h i _ (hne _ (List.getElem_mem _))]

theorem withoutSnapshots_zip_mapIdx :
    withoutSnapshots (messages.zip (messages.mapIdx f)) =
      (withoutInspect messages).map fun message => (message, told) := by
  induction messages generalizing f with
  | nil => rfl
  | cons message messages ih =>
    have hrest := ih fun i => h (i + 1)
    rw [List.mapIdx_cons, List.zip_cons_cons]
    by_cases hm : message = .inspect
    · subst hm
      rw [withoutSnapshots_inspect_cons, withoutInspect_inspect_cons, hrest]
    · rw [withoutSnapshots_cons hm, withoutInspect_cons hm, List.map_cons, hrest, h 0 _ hm]

end

/-- **Questions make no difference** to what is answered to other messages. -/
theorem zip_answers_withoutInspect (batches : List (List Message)) :
    List.zipWith List.zip (batches.map withoutInspect)
        (answers a k (batches.map withoutInspect)) =
      (List.zipWith List.zip batches (answers a k batches)).map withoutSnapshots := by
  refine List.ext_getElem (by simp [answers]) fun i hi hi' => ?_
  have hsent : Message.shutdown ∈ ((batches.map withoutInspect).take i).flatten ↔
      .shutdown ∈ (batches.take i).flatten := by
    rw [← List.map_take, flatten_map_withoutInspect, shutdown_mem_withoutInspect]
  simp only [List.getElem_map, List.getElem_zipWith, answers, List.getElem_mapIdx]
  rw [zip_mapIdx_withoutInspect fun _ _ h => answer_of_ne_inspect h _ _,
    withoutSnapshots_zip_mapIdx fun _ _ h => answer_of_ne_inspect h _ _]
  simp only [hsent]

/-! ### All runs -/

/-- **A session is its calls.**  For all messages, to a session that has any keyboard and however
they are divided into batches:

* what is handled is what was sent before the first shutdown, or everything if there is none, and
  the session is open afterwards exactly in the second case;
* the keyboard is, but for its reports, the one that the calls for the messages before the shutdown
  lead to when a host makes them, one after the other, be it that some of them fail;
* to what each call reports, the session adds the error if the call fails, and the theme if the call
  replaced one, and in the end the number of messages handled if it is shut down;
* a question before the shutdown is answered with what can be seen of the keyboard that the calls
  before the question lead to, and one behind it that the session is closed; any other message is
  accepted unless the session had ended before its batch was sent;
* without the questions the keyboard is the same but for that number, and so are the answers to all
  other messages. -/
theorem run_eq_direct (a : Assembly σ) (k : Keyboard σ) (batches : List (List Message)) :
    let messages := batches.flatten
    let before := beforeShutdown messages
    let r := run a { keyboard := k } batches
    let q := run a { keyboard := k } (batches.map withoutInspect)
    r.2.handled = before.length ∧
      (r.2.isOpen = true ↔ .shutdown ∉ messages) ∧
      (direct a k before).SameButReports r.2.keyboard ∧
      r.2.keyboard.dispatcher.notices =
        k.dispatcher.notices ++ log a k (calls before) ++
          (if .shutdown ∈ messages then [.sessionShutDown r.2.handled] else []) ∧
      (r.1 = batches.mapIdx fun i batch => batch.mapIdx fun j message =>
        answer a k (batches.take i).flatten (batch.take j) message) ∧
      r.2.keyboard.SameButReports q.2.keyboard ∧
      q.2.keyboard.dispatcher.notices =
        k.dispatcher.notices ++ log a k (calls before) ++
          (if .shutdown ∈ messages then [.sessionShutDown q.2.handled] else []) ∧
      q.2.isOpen = r.2.isOpen ∧
      List.zipWith List.zip (batches.map withoutInspect) q.1 =
        (List.zipWith List.zip batches r.1).map withoutSnapshots := by
  intro messages before r q
  have htracks : Tracks { keyboard := k } k := ⟨rfl, .refl k⟩
  have hends : ∀ batches, EndsAs a { keyboard := k } k batches.flatten
      (run a { keyboard := k } batches).2 := fun batches => by
    rw [run_snd]
    exact endsAs_drain htracks _
  have hr : EndsAs a _ k messages r.2 := hends batches
  have hq : EndsAs a { keyboard := k } k (withoutInspect messages) q.2 := by
    have hends := hends (batches.map withoutInspect)
    rw [flatten_map_withoutInspect] at hends
    exact hends
  have hcalls := calls_withoutInspect messages
  have hdirect : direct a k (beforeShutdown (withoutInspect messages)) = direct a k before := by
    rw [direct, direct, hcalls]
  refine ⟨?_, hr.isOpen, hr.keyboard, hr.notices, answers_run htracks batches, ?_, ?_, ?_, ?_⟩
  · rw [hr.handled, Nat.zero_add]
  · have hk := hq.keyboard
    rw [hdirect] at hk
    exact hr.keyboard.symm.trans hk
  · have hn := hq.notices
    simp only [shutdown_mem_withoutInspect, hcalls] at hn
    exact hn
  · rw [Bool.eq_iff_iff, hq.isOpen, hr.isOpen, shutdown_mem_withoutInspect]
  · rw [answers_run htracks, answers_run htracks]
    exact zip_answers_withoutInspect batches

/-- A session that starts without a layout.  To press the emoji key fails, and so does loading a
layout for want of a view; both errors are reported, and the layout that was loaded shows on the
view that is created next.  What waits behind the shutdown makes no call any more. -/
theorem run_of_failing_calls :
    let a : Assembly Layer := ⟨.unsplit, .basic⟩
    let k : Keyboard Layer := start {} .alphabet
    let batches : List (List Message) :=
      [[.press .emoji true {}, .inspect, .load {} {}, .createView false, .inspect, .shutdown,
          .destroyView, .inspect],
        [.hideWindow, .inspect]]
    let r := run a { keyboard := k } batches
    (∃ first second : Snapshot,
      r.1 =
          [[.accepted, .snapshot first, .accepted, .accepted, .snapshot second, .accepted,
              .accepted, .closed],
            [.closed, .closed]] ∧
        first.view = none ∧ first.configuration = none ∧
        second.view = some 1 ∧ second.configuration ≠ none) ∧
      r.2.handled = 5 ∧ r.2.isOpen = false ∧ r.2.keyboard.snapshot.view = some 1 ∧
      (r.2.keyboard.dispatcher.notices.filter fun notice => notice.severity = .error) =
        [.noLayout .emoji, .commandFailed (.noLayout .emoji),
          .commandFailed (.noView .alphabet)] := by
  intro a k batches r
  obtain ⟨hhandled, hopen, hkeyboard, hnotices, hanswers, -⟩ := run_eq_direct a k batches
  refine ⟨⟨_, _, hanswers, ?_⟩, hhandled, ?_, ?_, ?_⟩
  · decide +kernel
  · rw [Bool.eq_false_iff]
    exact fun h => hopen.1 h (by decide)
  · rw [hkeyboard.snapshot_eq]
    decide +kernel
  · rw [hnotices]
    decide +kernel

end Session

end SoftKeyboard
