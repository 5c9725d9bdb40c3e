import SoftKeyboard.Layout.Descriptor
import SoftKeyboard.Proofs.SortedMap
import SoftKeyboard.Proofs.Text.ByteOrder

/-!
# What a descriptor is resolved to

`Descriptor.Supplies` says which entry of a descriptor a layer has and where the entry comes from,
and `Descriptor.Draws` what is drawn of it.  `Descriptor.resolve_cases` follows a descriptor through
its resolution: names that no layer has are reported first, the least of them in the order of their
bytes, a missing alphabet after them, and in all other cases each layer is drawn as its entry says.
-/

namespace SoftKeyboard

/-! ### Names of layers -/

/-- Whether no layer has the name. -/
def Layer.IsUnknown (name : String) : Prop := ∀ layer : Layer, layer.name ≠ name

theorem Layer.isNone_ofName?_iff (name : String) : (ofName? name).isNone ↔ IsUnknown name := by
  rw [Option.isNone_iff_eq_none, ofName?, List.lookup_eq_none_iff, byName, List.forall_mem_map]
  constructor
  · intro h layer hname
    have := h layer (List.mem_of_getElem? layer.all_getElem_index)
    simp [hname] at this
  · intro h layer _
    simpa using (h layer).symm

instance : DecidablePred Layer.IsUnknown :=
  fun name => decidable_of_iff _ (Layer.isNone_ofName?_iff name)

/-- The padding in pixels for a fraction of a keyboard's height. -/
def LayerEntry.padding (fraction : Single) (height : UInt32) : UInt32 :=
  ((fraction.max .zero).mul (.ofNat height.toNat)).toWord

namespace Descriptor

variable {d : Descriptor}

/-- The name stands for no layer though the descriptor has an entry for it, and comes first among
such names in the order of their UTF-8 bytes. -/
structure IsLeastUnknown (d : Descriptor) (name : String) : Prop where
  mem : name ∈ d.layers.keys
  isUnknown : Layer.IsUnknown name
  le : ∀ other ∈ d.layers.keys, Layer.IsUnknown other → Text.utf8 name ≤ Text.utf8 other

theorem isLeastUnknown_of_find? {name : String}
    (h : d.layers.keys.find? (fun name => (Layer.ofName? name).isNone) = some name) :
    d.IsLeastUnknown name := by
  obtain ⟨hmem, hname, hle⟩ := SortedMap.find?_keys h
  refine ⟨hmem, (Layer.isNone_ofName?_iff name).1 hname, fun other hother hunknown => ?_⟩
  exact (Text.le_iff_utf8_le _ _).1 (hle other hother ((Layer.isNone_ofName?_iff other).2 hunknown))

/-! ### The entry of a layer -/

/-- Whether a layer has the numeric entry in a mode. -/
structure UsesNumeric (d : Descriptor) (mode : Mode) (layer : Layer) : Prop where
  mode : mode.isNumeric
  present : d.numeric.isSome
  layer : layer.isAlphabet

/-- A layer has an entry in a mode: the numeric one, its own, or that of the alphabet layer. -/
inductive Supplies (d : Descriptor) (mode : Mode) (layer : Layer) : LayerEntry → Prop
  | numeric {entry : LayerEntry} (uses : d.UsesNumeric mode layer)
      (given : d.numeric = some entry) : Supplies d mode layer entry
  | own {entry : LayerEntry} (spares : ¬ d.UsesNumeric mode layer)
      (given : d.layers.get? layer.name = some entry) : Supplies d mode layer entry
  | alphabet {entry : LayerEntry} (spares : ¬ d.UsesNumeric mode layer)
      (absent : d.layers.get? layer.name = none)
      (given : d.layers.get? Layer.alphabet.name = some entry) : Supplies d mode layer entry

theorem entryFor_of_uses {alphabet numeric : LayerEntry} {mode : Mode} {layer : Layer}
    (uses : d.UsesNumeric mode layer) (given : d.numeric = some numeric) :
    d.entryFor alphabet mode layer = numeric := by
  rw [entryFor, given]
  exact if_pos (Bool.and_eq_true_iff.2 ⟨uses.mode, uses.layer⟩)

theorem entryFor_of_spares {alphabet : LayerEntry} {mode : Mode} {layer : Layer}
    (spares : ¬ d.UsesNumeric mode layer) :
    d.entryFor alphabet mode layer = (d.layers.get? layer.name).getD alphabet := by
  unfold entryFor
  cases hnumeric : d.numeric with
  | none => rfl
  | some numeric =>
    refine if_neg fun huses => spares ?_
    obtain ⟨hmode, hlayer⟩ := Bool.and_eq_true_iff.1 huses
    exact ⟨hmode, hnumeric ▸ rfl, hlayer⟩

/-- The entry that a layer is drawn from is the one entry that it has. -/
theorem supplies_iff {alphabet entry : LayerEntry} {mode : Mode} {layer : Layer}
    (h : d.layers.get? Layer.alphabet.name = some alphabet) :
    d.Supplies mode layer entry ↔ entry = d.entryFor alphabet mode layer := by
  constructor
  · intro hsupplies
    cases hsupplies with
    | numeric uses given => exact (entryFor_of_uses uses given).symm
    | own spares given => rw [entryFor_of_spares spares, given, Option.getD_some]
    | alphabet spares absent given =>
      rw [entryFor_of_spares spares, absent, Option.getD_none]
      exact Option.some.inj (given.symm.trans h)
  · rintro rfl
    by_cases huses : d.UsesNumeric mode layer
    · obtain ⟨numeric, hnumeric⟩ := Option.isSome_iff_exists.1 huses.present
      rw [entryFor_of_uses huses hnumeric]
      exact .numeric huses hnumeric
    · rw [entryFor_of_spares huses]
      cases hown : d.layers.get? layer.name with
      | some entry => exact .own huses hown
      | none => exact .alphabet huses hown h

/-! ### Resolution -/

/-- What is drawn of an entry: its padding, its icons over those of the descriptor, and two halves
where both the configuration and the descriptor ask for them. -/
structure Draws (d : Descriptor) (c : Configuration) (entry : LayerEntry) (template : Template) :
    Prop where
  padding : template.topPadding = LayerEntry.padding entry.topPadding c.height
  icons : ∀ key, template.icons.get? key = (entry.icons.get? key).or (d.icons.get? key)
  split : template.split = true ↔ c.split = true ∧ d.supportsSplit = true

/-- **A descriptor is resolved in one of three ways.**  If it has an entry for a name that no layer
has, the least such name is reported; if it has no entry for the alphabet layer, that is reported,
whatever the numeric entry is; otherwise there is a layout, in which every layer is drawn from the
one entry that it has. -/
theorem resolve_cases (d : Descriptor) (stamp : Nat) (c : Configuration) :
    ((∃ name ∈ d.layers.keys, Layer.IsUnknown name) →
        ∃ name, d.IsLeastUnknown name ∧ d.resolve stamp c = .error (.unknownLayer c name)) ∧
      ((∀ name ∈ d.layers.keys, ¬ Layer.IsUnknown name) →
        (d.layers.get? Layer.alphabet.name = none →
            d.resolve stamp c = .error (.missingAlphabet c)) ∧
          (d.layers.get? Layer.alphabet.name ≠ none →
            ∃ layout, d.resolve stamp c = .ok layout ∧
              layout.configuration = c ∧ layout.script = d.script ∧
              ∀ layer, ∃! entry, d.Supplies c.mode layer entry ∧
                d.Draws c entry (layout.get layer).toTemplate)) := by
  unfold resolve
  constructor
  · rintro ⟨name, hmem, hname⟩
    cases hfind : d.layers.keys.find? fun name => (Layer.ofName? name).isNone with
    | none =>
      exact absurd ((Layer.isNone_ofName?_iff name).2 hname) (List.find?_eq_none.1 hfind name hmem)
    | some least => exact ⟨least, isLeastUnknown_of_find? hfind, rfl⟩
  · intro hknown
    have hfind : d.layers.keys.find? (fun name => (Layer.ofName? name).isNone) = none :=
      List.find?_eq_none.2 fun name hmem hname =>
        hknown name hmem ((Layer.isNone_ofName?_iff name).1 hname)
    rw [hfind]
    constructor
    · intro habsent
      rw [habsent]
    · intro hpresent
      obtain ⟨alphabet, halphabet⟩ := Option.ne_none_iff_exists'.1 hpresent
      rw [halphabet]
      refine ⟨_, rfl, rfl, rfl, fun layer => ⟨d.entryFor alphabet c.mode layer, ⟨?_, ?_⟩, ?_⟩⟩
      · exact (supplies_iff halphabet).2 rfl
      · rw [Layout.toTemplate_get_ofTemplates]
        exact ⟨rfl, SortedMap.get?_override d.icons _, Bool.and_eq_true_iff⟩
      · rintro other ⟨hother, -⟩
        exact (supplies_iff halphabet).1 hother

/-- A descriptor with a number pad, for the given entries of layers. -/
def numberPad (layers : List (String × LayerEntry)) : Descriptor where
  name := "number_pad"
  script := .latin
  supportsSplit := true
  icons := .ofList [("shift_key", "ic_shift"), ("delete_key", "ic_delete")]
  layers := .ofList layers
  numeric := some { topPadding := .ofDecimal 1 1, icons := .ofList [("shift_key", "ic_digits")] }

/-- The three ways for a number pad: two unknown names, no alphabet, and neither of the two.  In the
last case the alphabet is drawn from the numeric entry, and the symbols from their own. -/
theorem resolve_numberPad_cases :
    let c : Configuration := { mode := .phone, height := 400, split := true }
    let pad := numberPad [("alphabet", {}), ("symbols", { topPadding := .one })]
    (∃ name, (numberPad [("numpad", {}), ("alphabet", {}), ("keypad", {})]).IsLeastUnknown name ∧
        (numberPad [("numpad", {}), ("alphabet", {}), ("keypad", {})]).resolve 0 c =
          .error (.unknownLayer c name)) ∧
      (numberPad [("symbols", {})]).resolve 0 c = .error (.missingAlphabet c) ∧
      ∃ layout, pad.resolve 0 c = .ok layout ∧ layout.configuration = c ∧
        layout.script = .latin ∧
        (∀ layer, ∃! entry, pad.Supplies .phone layer entry ∧
          pad.Draws c entry (layout.get layer).toTemplate) ∧
        (layout.get .alphabet).topPadding = 40 ∧
        (layout.get .alphabet).icons.get? "shift_key" = some "ic_digits" ∧
        (layout.get .alphabet).icons.get? "delete_key" = some "ic_delete" ∧
        (layout.get .symbols).topPadding = 400 ∧
        (layout.get .symbols).icons.get? "shift_key" = some "ic_shift" := by
  intro c pad
  obtain ⟨layout, hlayout, hconfiguration, hscript, hlayers⟩ :=
    ((resolve_cases pad 0 c).2 (by decide +kernel)).2 (by decide +kernel)
  have hdraws : ∀ layer, pad.Draws c (pad.entryFor {} .phone layer)
      (layout.get layer).toTemplate := by
    intro layer
    obtain ⟨entry, ⟨hsupplies, hdraws⟩, -⟩ := hlayers layer
    rw [← (supplies_iff (by decide +kernel)).1 hsupplies]
    exact hdraws
  refine ⟨(resolve_cases _ 0 _).1 ⟨"numpad", by decide +kernel, by decide +kernel⟩,
    ((resolve_cases (numberPad [("symbols", {})]) 0 _).2 (by decide +kernel)).1
      (by decide +kernel), layout, hlayout, hconfiguration, hscript, hlayers, ?_, ?_, ?_, ?_, ?_⟩
  · exact (hdraws .alphabet).padding.trans (by decide +kernel)
  · exact ((hdraws .alphabet).icons "shift_key").trans (by decide +kernel)
  · exact ((hdraws .alphabet).icons "delete_key").trans (by decide +kernel)
  · exact (hdraws .symbols).padding.trans (by decide +kernel)
  · exact ((hdraws .symbols).icons "shift_key").trans (by decide +kernel)

end Descriptor

end SoftKeyboard
