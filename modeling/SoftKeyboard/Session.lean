import SoftKeyboard.Keyboard.Operation

/-!
# Sessions

A session takes messages from a queue, one after the other, until it is shut down.  Most of them ask
for a call to its keyboard.  A call that fails is reported, and the session goes on.

Messages are sent while the session is at work, so that some wait in the queue when it is shut down.
These are dropped: their senders were told already that they were accepted, and only who asks a
question learns that it was not answered.  Messages that are sent later are refused.  A full queue
only makes senders wait: what they send is in it by then, and is dropped with the rest.
-/

namespace SoftKeyboard

/-! ### Messages -/

/-- Something sent to a session. -/
inductive Message where
  | updateTheme (id : ThemeId)
  | load (request : Keyboard.LoadRequest) (settings : Settings)
  | toggleEmoji (request : Keyboard.LoadRequest)
  | createView (hardwareAcceleration : Bool)
  | destroyView
  | releaseResources
  | hideWindow
  | save
  | restore
  | press (code : KeyCode) (singlePointer : Bool) (c : Capitalization)
  | release (code : KeyCode) (sliding : Bool) (c : Capitalization)
  | finishSliding (c : Capitalization)
  | event (e : Event) (c : Capitalization)
  | updateShift (c : Capitalization)
  | reset (c : Capitalization)
  /-- Asks what can be seen of the keyboard. -/
  | inspect
  | shutdown
  deriving DecidableEq, Repr

/-- What a sender gets back. -/
inductive Answer where
  | accepted
  | snapshot (snapshot : Keyboard.Snapshot)
  /-- The session has ended. -/
  | closed
  deriving DecidableEq, Repr

/-- The text of the error of sending to a session that has ended. -/
def closedMessage : String := "keyboard session is closed"

namespace Message

/-- The message for a command. -/
def command : Command → Message
  | .updateTheme id => .updateTheme id
  | .load request settings => .load request settings
  | .toggleEmoji request => .toggleEmoji request
  | .createView hardwareAcceleration => .createView hardwareAcceleration
  | .destroyView => .destroyView
  | .releaseResources => .releaseResources
  | .hideWindow => .hideWindow
  | .save => .save
  | .restore => .restore
  | .input (.press code singlePointer) c => .press code singlePointer c
  | .input (.release code sliding) c => .release code sliding c
  | .input .finishSliding c => .finishSliding c
  | .input (.event e) c => .event e c
  | .input .updateShift c => .updateShift c
  | .input .reset c => .reset c

/-- What the sender of a message has been told when the message is dropped from the queue. -/
def dropped : Message → Answer
  | inspect => .closed
  | _ => .accepted

end Message

/-! ### Sessions -/

/-- A session with its keyboard. -/
structure Session (σ : Type) where
  keyboard : Keyboard σ
  isOpen : Bool := true
  /-- How many messages were handled; a shutdown does not count. -/
  handled : Nat := 0

namespace Session

variable {σ : Type}

/-- Makes the call that a message asks for.  Gives the error that the call ends with. -/
def apply (a : Assembly σ) (k : Keyboard σ) : Message → Outcome × Keyboard σ
  | .updateTheme id =>
    let (changed, d) := k.dispatcher.updateTheme a.toEnvironment id
    (.ok (), k.withDispatcher (if changed then d.note [.themeChanged id] else d))
  | .load request settings => k.load a request settings
  | .toggleEmoji request =>
    let (pane, k) := k.toggleEmoji a request
    (pane.map fun _ => (), k)
  | .createView hardwareAcceleration =>
    (.ok (), k.withDispatcher (k.dispatcher.createView a.toEnvironment hardwareAcceleration).2)
  | .destroyView => (.ok (), k.withDispatcher k.dispatcher.destroyView.2)
  | .releaseResources => (.ok (), k.withDispatcher k.dispatcher.releaseResources)
  | .hideWindow => (.ok (), k.withDispatcher k.dispatcher.hideWindow)
  | .save => (.ok (), k.save a)
  | .restore =>
    let (layer, k) := k.restore
    (layer.map fun _ => (), k)
  | .press code singlePointer c => k.drive a (.input (.press code singlePointer)) c
  | .release code sliding c => k.drive a (.input (.release code sliding)) c
  | .finishSliding c => k.drive a (.input .finishSliding) c
  | .event e c => k.drive a (.input (.event e)) c
  | .updateShift c => k.drive a (.input .updateShift) c
  | .reset c => k.drive a (.input .reset) c
  | .inspect | .shutdown => (.ok (), k)

/-- Handles a message from the queue.  Gives what its sender is told. -/
def handle (a : Assembly σ) (s : Session σ) : Message → Answer × Session σ
  | .inspect => (.snapshot s.keyboard.snapshot, { s with handled := s.handled + 1 })
  | .shutdown =>
    let d := s.keyboard.dispatcher.note [.sessionShutDown s.handled]
    (.accepted, { s with keyboard := s.keyboard.withDispatcher d, isOpen := false })
  | message =>
    let (outcome, k) := apply a s.keyboard message
    let d := match outcome with
      | .ok () => k.dispatcher
      | .error e => k.dispatcher.note [.commandFailed e]
    (.accepted, { s with keyboard := k.withDispatcher d, handled := s.handled + 1 })

/-- Handles the messages that wait in the queue, from the first to the last.  Those behind a
shutdown are dropped. -/
def drain (a : Assembly σ) : Session σ → List Message → List Answer × Session σ
  | s, [] => ([], s)
  | s, message :: messages =>
    let (answer, s) := if s.isOpen then s.handle a message else (message.dropped, s)
    let (answers, s) := drain a s messages
    (answer :: answers, s)

/-- Sends messages, all of them before the session handles the first. -/
def send (a : Assembly σ) (s : Session σ) (batch : List Message) : List Answer × Session σ :=
  if s.isOpen then s.drain a batch else (batch.map fun _ => .closed, s)

/-- Sends a message and has it handled. -/
def step (a : Assembly σ) (s : Session σ) (message : Message) : Answer × Session σ :=
  if s.isOpen then s.handle a message else (.closed, s)

/-- Sends messages in batches, each of which is handled before the next is sent.  Gives the answers
to each batch. -/
def run (a : Assembly σ) : Session σ → List (List Message) → List (List Answer) × Session σ
  | s, [] => ([], s)
  | s, batch :: batches =>
    let (answers, s) := s.send a batch
    let (later, s) := run a s batches
    (answers :: later, s)

end Session

end SoftKeyboard
