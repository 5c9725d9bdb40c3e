import SoftKeyboard.Layout.Descriptor

/-!
# Catalogs of layouts

A catalog keeps the texts of layout descriptors by name.  A text is read whenever a layout is built
from it, so that a broken one fails only the configurations that name it.
-/

namespace SoftKeyboard

/-- The texts of layout descriptors by the names of the layouts. -/
structure Catalog where
  sources : SortedMap String
  deriving DecidableEq, Repr, Inhabited

namespace Catalog

/-- The catalog without descriptors. -/
def empty : Catalog := ⟨.empty⟩

/-- The catalog with a descriptor added or replaced. -/
def insert (c : Catalog) (name source : String) : Catalog := ⟨c.sources.insert name source⟩

/-- Whether there is a descriptor of a name. -/
def contains (c : Catalog) (name : String) : Bool := c.sources.contains name

/-- The names of the layouts in increasing order. -/
def names (c : Catalog) : List String := c.sources.keys

/-- The layout for a configuration, with the given stamp. -/
def build (c : Catalog) (stamp : Nat) (configuration : Configuration) :
    Except BuildError Layout :=
  match c.sources.get? configuration.subtype.layout with
  | none => .error (.missingDescriptor configuration)
  | some source =>
    match Descriptor.ofText? source with
    | none => .error (.malformed configuration)
    | some descriptor => descriptor.resolve stamp configuration

end Catalog

end SoftKeyboard
