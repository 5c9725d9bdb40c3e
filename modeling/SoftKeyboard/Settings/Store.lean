import SoftKeyboard.Settings.Basic

/-!
# Stores of live settings

A `Stores` holds the current snapshot of any number of settings stores and the handles that were
given out for them.  A handle and its clones name one store, so that what is published through one
of them is seen through all.
-/

namespace SoftKeyboard

/-- Settings stores, and the store that each handle names. -/
structure Stores where
  snapshots : List Settings := []
  handles : List Nat := []

namespace Stores

/-- Opens a store with its first handle.  Gives the handle. -/
def openStore (s : Stores) (settings : Settings) : Nat × Stores :=
  (s.handles.length,
    ⟨s.snapshots ++ [settings], s.handles ++ [s.snapshots.length]⟩)

/-- Another handle of a handle's store. -/
def clone? (s : Stores) (handle : Nat) : Option (Nat × Stores) := do
  let store ← s.handles[handle]?
  some (s.handles.length, { s with handles := s.handles ++ [store] })

/-- The snapshot that a handle sees. -/
def current? (s : Stores) (handle : Nat) : Option Settings := do
  s.snapshots[← s.handles[handle]?]?

/-- Puts a snapshot in place of the one that a handle sees. -/
def publish? (s : Stores) (handle : Nat) (settings : Settings) : Option Stores := do
  let store ← s.handles[handle]?
  some { s with snapshots := s.snapshots.set store settings }

/-- Publishes a changed copy of the snapshot that a handle sees. -/
def update? (s : Stores) (handle : Nat) (change : Settings → Settings) : Option Stores := do
  s.publish? handle (change (← s.current? handle))

end Stores

end SoftKeyboard
