import SoftKeyboard.Keyboard.Basic

/-!
# What a host may do

`Command` lists what a host may send to a keyboard through a session, `Operation` adds what it may
do to a keyboard of its own.  `Keyboard.perform` carries out one operation, `Keyboard.performAll`
several.
-/

namespace SoftKeyboard

/-! ### Commands and operations -/

/-- A command to a keyboard. -/
inductive Command where
  | updateTheme (id : ThemeId)
  | load (request : Keyboard.LoadRequest) (settings : Settings)
  | toggleEmoji (request : Keyboard.LoadRequest)
  | createView (hardwareAcceleration : Bool)
  | destroyView
  | releaseResources
  | hideWindow
  | save
  | restore
  | input (i : Input) (c : Capitalization)
  deriving DecidableEq, Repr

/-- Whatever a host may do to a keyboard. -/
inductive Operation where
  | command (command : Command)
  /-- Shows a layer without asking the state machine. -/
  | select (layer : Layer)
  /-- Updates the shift state and reports an error only. -/
  | requestShift (c : Capitalization)
  | setTimer (running : Bool)
  /-- Puts settings in place of the live ones. -/
  | publish (settings : Settings)
  /-- The user opens or closes the panel of more keys on the last view. -/
  | setMoreKeys (showing : Bool)
  deriving DecidableEq, Repr

/-- What an operation gives back. -/
inductive Reply where
  | done
  | changed (theme : Bool)
  | outcome (outcome : Outcome)
  | pane (pane : Except KeyboardError Pane)
  | view (view : Option Nat)
  | layer (layer : Except KeyboardError (Option Layer))

namespace Reply

/-- The error that an operation ended with. -/
def error? : Reply → Option KeyboardError
  | outcome (.error e) | pane (.error e) | layer (.error e) => some e
  | _ => none

end Reply

/-! ### Carrying out -/

namespace Keyboard

variable {σ : Type}

/-- Carries out a command. -/
def obey (a : Assembly σ) (k : Keyboard σ) : Command → Reply × Keyboard σ
  | .updateTheme id =>
    let (theme, d) := k.dispatcher.updateTheme a.toEnvironment id
    (.changed theme, k.withDispatcher d)
  | .load request settings =>
    let (outcome, k) := load a k request settings
    (.outcome outcome, k)
  | .toggleEmoji request =>
    let (pane, k) := toggleEmoji a k request
    (.pane pane, k)
  | .createView hardwareAcceleration =>
    let (view, d) := k.dispatcher.createView a.toEnvironment hardwareAcceleration
    (.view (some view), k.withDispatcher d)
  | .destroyView =>
    let (view, d) := k.dispatcher.destroyView
    (.view view, k.withDispatcher d)
  | .releaseResources => (.done, k.withDispatcher k.dispatcher.releaseResources)
  | .hideWindow => (.done, k.withDispatcher k.dispatcher.hideWindow)
  | .save => (.done, k.save a)
  | .restore =>
    let (layer, k) := k.restore
    (.layer layer, k)
  | .input i c =>
    let (outcome, k) := drive a k (.input i) c
    (.outcome outcome, k)

/-- Carries out an operation. -/
def perform (a : Assembly σ) (k : Keyboard σ) : Operation → Reply × Keyboard σ
  | .command c => obey a k c
  | .select layer =>
    let (outcome, k) := k.select layer
    (.outcome outcome, k)
  | .requestShift c => (.done, k.requestShift a c)
  | .setTimer running => (.done, k.withDispatcher (k.dispatcher.setTimer running))
  | .publish settings => (.done, k.withDispatcher { k.dispatcher with live := settings })
  | .setMoreKeys showing =>
    let (view, d) := k.dispatcher.setMoreKeys showing
    (.view view, k.withDispatcher d)

/-- The keyboard after operations, from the first to the last. -/
def performAll (a : Assembly σ) (k : Keyboard σ) (operations : List Operation) : Keyboard σ :=
  operations.foldl (fun k operation => (k.perform a operation).2) k

end Keyboard

end SoftKeyboard
