import SoftKeyboard.Layout.Basic
import SoftKeyboard.Layout.Error

/-!
# Layout descriptors

A descriptor says what varies between the layers of one layout.  `Descriptor.ofText?` reads one and
`Descriptor.resolve` makes it a layout for a configuration:

* a layer without an entry has the entry of the alphabet layer;
* in numeric modes the alphabet layers have the numeric entry, if there is one;
* the top padding is a fraction of the keyboard's height;
* the icons of an entry are put over those of the descriptor.
-/

namespace SoftKeyboard

open Document (requiredField optionalField)

/-- What a descriptor says of one layer. -/
structure LayerEntry where
  /-- The top padding as a fraction of the keyboard's height. -/
  topPadding : Single := .zero
  icons : IconSet := .empty
  deriving DecidableEq, Repr, Inhabited

namespace LayerEntry

/-- The fields of an entry. -/
def fields : List (Document.Field LayerEntry) :=
  [optionalField "top_padding" Document.toSingle? fun x e => { e with topPadding := x },
    optionalField "icons" IconSet.ofDocument? fun x e => { e with icons := x }]

/-- The entry that a document spells. -/
def ofDocument? : Document → Option LayerEntry := Document.toRecord? fields {}

/-- The padding in pixels on a keyboard of the given height. -/
def paddingFor (e : LayerEntry) (height : UInt32) : UInt32 :=
  ((e.topPadding.max .zero).mul (.ofNat height.toNat)).toWord

end LayerEntry

/-- A layout as it is described. -/
structure Descriptor where
  name : String
  script : Script := .unknown
  supportsSplit : Bool := false
  icons : IconSet := .empty
  /-- The entries of layers by their names. -/
  layers : SortedMap LayerEntry := .empty
  /-- The entry of the alphabet layers in numeric modes. -/
  numeric : Option LayerEntry := none
  deriving DecidableEq, Repr

namespace Descriptor

/-- The fields of a descriptor. -/
def fields : List (Document.Field Descriptor) :=
  [requiredField "name" Document.toText? fun x d => { d with name := x },
    optionalField "script" Script.ofDocument? fun x d => { d with script := x },
    optionalField "supports_split" Document.toBool? fun x d => { d with supportsSplit := x },
    optionalField "icons" IconSet.ofDocument? fun x d => { d with icons := x },
    optionalField "variants" (Document.toMap? LayerEntry.ofDocument?)
      fun x d => { d with layers := x },
    optionalField "numeric" (Document.toNullable? LayerEntry.ofDocument?)
      fun x d => { d with numeric := x }]

/-- The descriptor that a document spells. -/
def ofDocument? : Document → Option Descriptor := Document.toRecord? fields { name := "" }

/-- The descriptor that a text spells. -/
def ofText? (source : String) : Option Descriptor := (Document.parse? source).bind ofDocument?

/-- The entry of a layer in a mode, where `alphabet` is the entry of the alphabet layer. -/
def entryFor (d : Descriptor) (alphabet : LayerEntry) (mode : Mode) (layer : Layer) : LayerEntry :=
  match d.numeric with
  | some numeric =>
    if mode.isNumeric && layer.isAlphabet then numeric
    else (d.layers.get? layer.name).getD alphabet
  | none => (d.layers.get? layer.name).getD alphabet

/-- The layout for a configuration, with the given stamp. -/
def resolve (d : Descriptor) (stamp : Nat) (c : Configuration) : Except BuildError Layout :=
  match d.layers.keys.find? fun name => (Layer.ofName? name).isNone with
  | some name => .error (.unknownLayer c name)
  | none =>
    match d.layers.get? Layer.alphabet.name with
    | none => .error (.missingAlphabet c)
    | some alphabet =>
      .ok (.ofTemplates stamp c d.script fun layer =>
        let entry := d.entryFor alphabet c.mode layer
        { topPadding := entry.paddingFor c.height
          icons := d.icons.override entry.icons
          split := c.split && d.supportsSplit })

end Descriptor

end SoftKeyboard
