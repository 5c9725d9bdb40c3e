import SoftKeyboard.Dispatcher

/-!
# What a builder answers

A catalog reads nothing but the configuration: asked for it twice, it gives layouts that differ in
their stamps only, or fails both times (`Catalog.build_restamp`).  `Environment.Steady` says so of
any builder, together with what a layout carries of the question that it answers.
-/

namespace SoftKeyboard

/-- The stamp enters a layout as its stamp and in no other way. -/
theorem Descriptor.resolve_restamp (d : Descriptor) (stamp stamp' : Nat) (c : Configuration) :
    d.resolve stamp' c =
      (d.resolve stamp c).map fun layout => { layout with stamp := stamp' } := by
  unfold resolve
  cases d.layers.keys.find? fun name => (Layer.ofName? name).isNone with
  | some name => rfl
  | none => cases d.layers.get? Layer.alphabet.name <;> rfl

/-- A descriptor that can be resolved gives a layout for the configuration asked for. -/
theorem Descriptor.of_resolve_eq_ok {d : Descriptor} {stamp : Nat} {c : Configuration}
    {layout : Layout} (h : d.resolve stamp c = .ok layout) :
    layout.stamp = stamp ∧ layout.configuration = c := by
  unfold resolve at h
  split at h
  · cases h
  · split at h
    · cases h
    · obtain rfl := Except.ok.inj h
      exact ⟨rfl, rfl⟩

namespace Catalog

variable (catalog : Catalog)

/-- **A catalog answers alike** whenever it is asked for one configuration. -/
theorem build_restamp (stamp stamp' : Nat) (c : Configuration) :
    catalog.build stamp' c =
      (catalog.build stamp c).map fun layout => { layout with stamp := stamp' } := by
  unfold build
  cases catalog.sources.get? c.subtype.layout with
  | none => rfl
  | some source =>
    dsimp only
    cases Descriptor.ofText? source with
    | none => rfl
    | some descriptor => exact descriptor.resolve_restamp stamp stamp' c

variable {catalog}

theorem of_build_eq_ok {stamp : Nat} {c : Configuration} {layout : Layout}
    (h : catalog.build stamp c = .ok layout) :
    layout.stamp = stamp ∧ layout.configuration = c := by
  unfold build at h
  split at h
  · cases h
  · split at h
    · cases h
    · exact Descriptor.of_resolve_eq_ok h

end Catalog

/-- A catalog of one layout with bare keys. -/
def Catalog.bare : Catalog :=
  empty.insert "qwerty"
    (Document.record
      [("name", .string "bare"), ("variants", .record [("alphabet", .record [])])]).render

namespace Environment

/-- Each layout that the builder gives has the stamp and the configuration that it was asked for,
and is given again, up to the stamp, whenever the configuration is. -/
structure Steady (env : Environment) : Prop where
  stamp : ∀ {stamp c layout}, env.build stamp c = .ok layout → layout.stamp = stamp
  configuration : ∀ {stamp c layout}, env.build stamp c = .ok layout → layout.configuration = c
  again : ∀ {stamp c layout}, env.build stamp c = .ok layout →
    ∀ stamp', env.build stamp' c = .ok { layout with stamp := stamp' }

theorem steady_ofCatalog (catalog : Catalog) (display : Display) (listening : Bool) :
    (ofCatalog catalog display listening).Steady where
  stamp h := (Catalog.of_build_eq_ok h).1
  configuration h := (Catalog.of_build_eq_ok h).2
  again {stamp c layout} h stamp' := by
    replace h : catalog.build stamp c = .ok layout := h
    show catalog.build stamp' c = _
    rw [catalog.build_restamp stamp stamp' c, h]
    rfl

end Environment

end SoftKeyboard
