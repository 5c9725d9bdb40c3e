import SoftKeyboard.Configuration
import SoftKeyboard.Document.Decode
import SoftKeyboard.Layer
import SoftKeyboard.Script

/-!
# Layouts and their variants

A layout holds, for one configuration, a variant of every layer.  Each layout that is built carries
a stamp, and a variant is identified by its layer and the stamp of its layout: variants of two
layouts are different even where their contents agree.  `Layout.assemble` builds a layout from a
resolver that is asked for one layer after the other.
-/

namespace SoftKeyboard

/-! ### Icons -/

/-- Names of icons by the names of the keys that they decorate. -/
abbrev IconSet := SortedMap String

namespace IconSet

/-- The document of an icon set. -/
def toDocument (icons : IconSet) : Document := .map .string icons

/-- The icon set that a document spells. -/
def ofDocument? : Document → Option IconSet := Document.toMap? Document.toText?

end IconSet

/-! ### Variants -/

/-- What is drawn for one layer. -/
structure Template where
  /-- The padding above the keys in pixels. -/
  topPadding : UInt32 := 0
  icons : IconSet := .empty
  /-- Whether the keys are drawn in two halves. -/
  split : Bool := false
  deriving DecidableEq, Repr, Inhabited

/-- A layer of a layout, ready to be drawn. -/
structure Variant extends Template where
  layer : Layer
  /-- The stamp of the layout it belongs to. -/
  stamp : Nat
  configuration : Configuration
  deriving DecidableEq, Repr

namespace Variant

/-- The subtype the variant types. -/
def subtype (v : Variant) : InputSubtype := v.configuration.subtype

/-- Whether two variants are one and the same: the same layer of the same layout. -/
def isSame (v w : Variant) : Bool := v.layer == w.layer && v.stamp == w.stamp

/-- Whether two variants stand for the same layer under the same configuration, be it in one layout
or in two. -/
def isInterchangeable (v w : Variant) : Bool :=
  v.layer == w.layer && v.configuration == w.configuration

/-- Whether two variants have equal contents, whatever layouts they belong to. -/
def hasEqualContent (v w : Variant) : Bool :=
  v.isInterchangeable w && v.toTemplate == w.toTemplate

end Variant

/-! ### Layouts -/

/-- A variant of every layer for one configuration. -/
structure Layout where
  stamp : Nat
  configuration : Configuration
  script : Script
  /-- What is drawn for each layer, by the layers' places in their order. -/
  templates : Vector Template 8
  deriving DecidableEq, Repr

namespace Layout

/-- The variant of a layer. -/
def get (layout : Layout) (layer : Layer) : Variant where
  toTemplate := layout.templates[layer.index]
  layer := layer
  stamp := layout.stamp
  configuration := layout.configuration

/-- The variants in the order of the layers. -/
def variants (layout : Layout) : List Variant := Layer.all.map layout.get

/-- Whether a variant is one of the layout's own. -/
def contains (layout : Layout) (v : Variant) : Bool := (layout.get v.layer).isSame v

/-- The layout that draws each layer as given. -/
def ofTemplates (stamp : Nat) (configuration : Configuration) (script : Script)
    (template : Layer → Template) : Layout where
  stamp := stamp
  configuration := configuration
  script := script
  templates := ⟨(Layer.all.map template).toArray, rfl⟩

@[simp]
theorem layer_get (layout : Layout) (layer : Layer) : (layout.get layer).layer = layer := rfl

@[simp]
theorem stamp_get (layout : Layout) (layer : Layer) : (layout.get layer).stamp = layout.stamp := rfl

@[simp]
theorem configuration_get (layout : Layout) (layer : Layer) :
    (layout.get layer).configuration = layout.configuration := rfl

/-- A layout draws each layer from the template given for it. -/
@[simp]
theorem toTemplate_get_ofTemplates (stamp : Nat) (configuration : Configuration) (script : Script)
    (template : Layer → Template) (layer : Layer) :
    ((ofTemplates stamp configuration script template).get layer).toTemplate = template layer := by
  cases layer <;> rfl

/-- A layout contains a variant exactly when the variant carries its stamp. -/
theorem contains_eq (layout : Layout) (v : Variant) :
    layout.contains v = (layout.stamp == v.stamp) := by
  simp [contains, Variant.isSame]

/-! ### Assembly -/

/-- Asks a resolver for the templates of a list of layers, from the first to the last, and stops at
the first error.  The resolver may change a state of its own, which is given back in either case. -/
def resolveAll {σ ε : Type} (resolve : Layer → σ → Except ε Template × σ) :
    (layers : List Layer) → σ →
      Except ε { templates : List Template // templates.length = layers.length } × σ
  | [], state => (.ok ⟨[], rfl⟩, state)
  | layer :: layers, state =>
    match resolve layer state with
    | (.error e, state) => (.error e, state)
    | (.ok template, state) =>
      match resolveAll resolve layers state with
      | (.error e, state) => (.error e, state)
      | (.ok ⟨templates, h⟩, state) => (.ok ⟨template :: templates, by simp [h]⟩, state)

/-- Builds a layout by asking a resolver for the template of each layer, in the order of the
layers.  The first error is the result, and no layout is built. -/
def assemble {σ ε : Type} (stamp : Nat) (configuration : Configuration) (script : Script)
    (resolve : Layer → σ → Except ε Template × σ) (state : σ) : Except ε Layout × σ :=
  match resolveAll resolve Layer.all state with
  | (.error e, state) => (.error e, state)
  | (.ok ⟨templates, h⟩, state) =>
    (.ok ⟨stamp, configuration, script, ⟨templates.toArray, by simpa [Layer.all] using h⟩⟩, state)

end Layout

end SoftKeyboard
