import Mathlib.Data.Fintype.EquivFin
import Mathlib.Tactic.IntervalCases
import SoftKeyboard.Layout.Basic

/-!
# Assembling a layout

A layout is assembled by a resolver, which is asked for the template of one layer after the other.

* `Layout.noting` makes a resolver note its calls, and `Layout.Replies` says of a list of calls that
  a resolver answers them one after the other.  An assembly asks for the layers in their order, up
  to the first error (`Layout.assemble_noting`).
* `Layout.Represents` says what an assembly that succeeds has made of the answers.
* A `Layout.Stock` holds layouts that were assembled at various times, each with a stamp of its own.
  Of the variants in it, a layout contains its own and no others, whatever their contents
  (`Layout.Stock.contains_iff`).

`Layout.assembly_represents` puts these together.
-/

namespace SoftKeyboard

namespace Layer

theorem map_index_all : all.map (fun layer => layer.index.val) = List.range 8 := rfl

/-- The places of the first few layers are counted from zero on. -/
theorem map_index_of_prefix {layers : List Layer} (h : layers <+: all) :
    layers.map (fun layer => layer.index.val) = List.range layers.length := by
  have hle : layers.length ≤ 8 := h.length_le
  calc layers.map (fun layer => layer.index.val)
      = (all.map fun layer => layer.index.val).take layers.length := by
        rw [← List.map_take, ← List.prefix_iff_eq_take.1 h]
    _ = List.range layers.length := by
        rw [map_index_all, List.take_range, Nat.min_eq_left hle]

theorem index_getElem_all (i : Nat) (h : i < all.length) : (all[i].index : Nat) = i := by
  have hi : i < 8 := h
  interval_cases i <;> rfl

end Layer

namespace Layout

variable {σ ε : Type}

/-! ### Calls of a resolver -/

/-- A call of a resolver: the layer that it is asked for, and its answer. -/
structure Call (ε : Type) where
  layer : Layer
  answer : Except ε Template

/-- The resolver that notes its calls beside its own state. -/
def noting (resolve : Layer → σ → Except ε Template × σ) (layer : Layer)
    (state : σ × List (Call ε)) : Except ε Template × (σ × List (Call ε)) :=
  let (answer, next) := resolve layer state.1
  (answer, (next, state.2 ++ [⟨layer, answer⟩]))

/-- From one state to another, a resolver answers calls one after the other, each in the state that
the call before has left. -/
inductive Replies (resolve : Layer → σ → Except ε Template × σ) :
    σ → List (Call ε) → σ → Prop where
  | nil (state : σ) : Replies resolve state [] state
  | cons {layer : Layer} {answer : Except ε Template} {state next last : σ}
    {calls : List (Call ε)} (h : resolve layer state = (answer, next))
    (hs : Replies resolve next calls last) : Replies resolve state (⟨layer, answer⟩ :: calls) last

/-- The calls end with the first error. -/
def StopsAt (calls : List (Call ε)) (e : ε) : Prop :=
  ∃ before layer, calls = before ++ [⟨layer, .error e⟩] ∧
    ∀ call ∈ before, ∃ template, call.answer = .ok template

/-- How the calls for some layers end: with all templates, or with the first error. -/
def Concludes (layers : List Layer) (calls : List (Call ε)) : Except ε (List Template) → Prop
  | .ok templates => calls.map Call.layer = layers ∧ calls.map Call.answer = templates.map .ok
  | .error e => calls.map Call.layer <+: layers ∧ StopsAt calls e

variable {layers : List Layer} {calls : List (Call ε)} {result : Except ε (List Template)}

theorem StopsAt.cons {e : ε} (h : StopsAt calls e) (layer : Layer) (template : Template) :
    StopsAt (⟨layer, .ok template⟩ :: calls) e := by
  obtain ⟨before, last, rfl, hbefore⟩ := h
  refine ⟨⟨layer, .ok template⟩ :: before, last, rfl, ?_⟩
  intro call hcall
  rcases List.mem_cons.1 hcall with rfl | hcall
  · exact ⟨template, rfl⟩
  · exact hbefore call hcall

theorem Concludes.cons (h : Concludes layers calls result) (layer : Layer) (template : Template) :
    Concludes (layer :: layers) (⟨layer, .ok template⟩ :: calls)
      (result.map (List.cons template)) := by
  cases result with
  | ok templates =>
    exact ⟨congrArg (List.cons layer) h.1, congrArg (List.cons (Except.ok template)) h.2⟩
  | error e => exact ⟨List.cons_prefix_cons.2 ⟨rfl, h.1⟩, h.2.cons layer template⟩

theorem Concludes.map_layer_prefix (h : Concludes layers calls result) :
    calls.map Call.layer <+: layers := by
  cases result with
  | ok templates => exact h.1 ▸ List.prefix_rfl
  | error e => exact h.1

section Steps

variable {resolve : Layer → σ → Except ε Template × σ} {layer : Layer} {state next : σ}

theorem noting_eq {answer : Except ε Template} (h : resolve layer state = (answer, next))
    (noted : List (Call ε)) :
    noting resolve layer (state, noted) = (answer, (next, noted ++ [⟨layer, answer⟩])) := by
  unfold noting
  rw [h]

theorem resolveAll_of_error {e : ε} (h : resolve layer state = (.error e, next))
    (layers : List Layer) : resolveAll resolve (layer :: layers) state = (.error e, next) := by
  rw [resolveAll, h]

theorem resolveAll_of_ok {template : Template} (h : resolve layer state = (.ok template, next))
    (layers : List Layer) :
    resolveAll resolve (layer :: layers) state =
      ((resolveAll resolve layers next).1.map fun rest =>
          ⟨template :: rest.1, congrArg Nat.succ rest.2⟩,
        (resolveAll resolve layers next).2) := by
  rw [resolveAll, h]
  dsimp only
  rcases resolveAll resolve layers next with ⟨e | ⟨templates, hlength⟩, last⟩ <;> rfl

end Steps

/-- **The calls for a list of layers**: noting them makes no difference; the resolver answers them
one after the other; and they end with all templates or with the first error. -/
theorem resolveAll_noting (resolve : Layer → σ → Except ε Template × σ) (layers : List Layer)
    (state : σ) (noted : List (Call ε)) :
    ∃ calls, resolveAll (noting resolve) layers (state, noted) =
        ((resolveAll resolve layers state).1, (resolveAll resolve layers state).2, noted ++ calls) ∧
      Replies resolve state calls (resolveAll resolve layers state).2 ∧
      Concludes layers calls ((resolveAll resolve layers state).1.map Subtype.val) := by
  induction layers generalizing state noted with
  | nil => exact ⟨[], by rw [List.append_nil]; rfl, .nil state, rfl, rfl⟩
  | cons layer layers ih =>
    rcases h : resolve layer state with ⟨e | template, next⟩
    · -- the first error is the last call
      rw [resolveAll_of_error h, resolveAll_of_error (noting_eq h noted)]
      exact ⟨[⟨layer, .error e⟩], rfl, .cons h (.nil next),
        List.cons_prefix_cons.2 ⟨rfl, List.nil_prefix⟩, [], layer, rfl,
        fun call hcall => (by cases hcall)⟩
    · obtain ⟨calls, hrun, hreplies, hends⟩ := ih next (noted ++ [⟨layer, .ok template⟩])
      replace hends := hends.cons layer template
      rw [List.append_assoc, List.singleton_append] at hrun
      rw [resolveAll_of_ok h, resolveAll_of_ok (noting_eq h noted), hrun]
      refine ⟨⟨layer, .ok template⟩ :: calls, rfl, .cons h hreplies, ?_⟩
      cases hr : (resolveAll resolve layers next).1 <;> rw [hr] at hends <;> exact hends

/-! ### Variants by their places -/

section Variants

variable (layout : Layout) (layer : Layer)

/-- The templates of a layout are those of its variants, in the order of the layers. -/
theorem toList_templates :
    layout.templates.toList = Layer.all.map fun layer => (layout.get layer).toTemplate := by
  refine List.ext_getElem (by rw [Vector.length_toList, List.length_map]; rfl) fun i hi hi' => ?_
  rw [List.getElem_map]
  simp only [get, Layer.index_getElem_all, Vector.getElem_toList, Fin.getElem_fin]

/-- A layer has one variant. -/
theorem filter_variants :
    (layout.variants.filter fun v => v.layer = layer) = [layout.get layer] := by
  cases layer <;> rfl

/-- The variant of a layer is found at the layer's place. -/
theorem getElem?_variants : layout.variants[layer.index.val]? = some (layout.get layer) := by
  rw [variants, List.getElem?_map]
  exact congrArg (Option.map layout.get) layer.all_getElem_index

variable {layout}

theorem mem_variants {v : Variant} : v ∈ layout.variants ↔ ∃ layer, layout.get layer = v := by
  constructor
  · intro h
    obtain ⟨layer, -, hv⟩ := List.mem_map.1 h
    exact ⟨layer, hv⟩
  · rintro ⟨layer, rfl⟩
    exact List.mem_of_getElem? (layout.getElem?_variants layer)

/-- A layout contains a variant if that is one and the same as one of its own. -/
theorem contains_iff_exists_isSame {v : Variant} :
    layout.contains v = true ↔ ∃ w ∈ layout.variants, w.isSame v = true := by
  constructor
  · exact fun h => ⟨layout.get v.layer, mem_variants.2 ⟨v.layer, rfl⟩, h⟩
  · rintro ⟨w, hw, hsame⟩
    obtain ⟨layer, rfl⟩ := mem_variants.1 hw
    rw [Variant.isSame, Bool.and_eq_true] at hsame
    rw [contains_eq]
    exact hsame.2

end Variants

/-! ### Assemblies -/

/-- What a layout has that was assembled from the answers to calls. -/
structure Represents (layout : Layout) (stamp : Nat) (configuration : Configuration)
    (script : Script) (calls : List (Call ε)) : Prop where
  stamp_eq : layout.stamp = stamp
  configuration_eq : layout.configuration = configuration
  script_eq : layout.script = script
  /-- Every layer was asked for, and is drawn as was answered. -/
  asked : calls.map Call.layer = Layer.all
  drawn : calls.map Call.answer = Layer.all.map fun layer => .ok (layout.get layer).toTemplate
  /-- A layer has one variant, which is found at the layer's place. -/
  one : ∀ layer, (layout.variants.filter fun v => v.layer = layer) = [layout.get layer]
  place : ∀ layer : Layer, layout.variants[layer.index.val]? = some (layout.get layer)
  variant : ∀ layer, (layout.get layer).layer = layer ∧
    (layout.get layer).configuration = configuration

theorem assemble_eq (stamp : Nat) (configuration : Configuration) (script : Script)
    (resolve : Layer → σ → Except ε Template × σ) (state : σ) :
    assemble stamp configuration script resolve state =
      ((resolveAll resolve Layer.all state).1.map fun templates =>
          ⟨stamp, configuration, script, ⟨templates.1.toArray, templates.2⟩⟩,
        (resolveAll resolve Layer.all state).2) := by
  unfold assemble
  rcases resolveAll resolve Layer.all state with ⟨e | ⟨templates, hlength⟩, last⟩ <;> rfl

/-- **The calls of an assembly.**  To note them makes no difference.  The resolver answers them one
after the other.  They ask for the layers in their order.  An error ends them and the assembly; and
if there is none, the layout represents the answers. -/
theorem assemble_noting (stamp : Nat) (configuration : Configuration) (script : Script)
    (resolve : Layer → σ → Except ε Template × σ) (state : σ) :
    let r := assemble stamp configuration script (noting resolve) (state, [])
    assemble stamp configuration script resolve state = (r.1, r.2.1) ∧
      Replies resolve state r.2.2 r.2.1 ∧ r.2.2.map Call.layer <+: Layer.all ∧
      (∀ e, r.1 = .error e → StopsAt r.2.2 e) ∧
      ∀ layout, r.1 = .ok layout → layout.Represents stamp configuration script r.2.2 := by
  obtain ⟨calls, hrun, hreplies, hends⟩ := resolveAll_noting resolve Layer.all state []
  have hprefix := hends.map_layer_prefix
  rw [assemble_eq, assemble_eq, hrun]
  refine ⟨rfl, hreplies, hprefix, ?_⟩
  cases hr : (resolveAll resolve Layer.all state).1 with
  | error e =>
    rw [hr] at hends
    refine ⟨?_, fun layout h => (by cases h)⟩
    rintro e ⟨⟩
    exact hends.2
  | ok templates =>
    rw [hr] at hends
    refine ⟨fun e h => (by cases h), fun layout h => ?_⟩
    have hlist : templates.1 = layout.templates.toList := by
      cases h
      rfl
    have hdrawn : calls.map Call.answer =
        Layer.all.map fun layer => .ok (layout.get layer).toTemplate :=
      calc calls.map Call.answer = templates.1.map .ok := hends.2
        _ = _ := by rw [hlist, toList_templates, List.map_map]; rfl
    cases h
    exact ⟨rfl, rfl, rfl, hends.1, hdrawn, filter_variants _, getElem?_variants _,
      fun layer => ⟨rfl, rfl⟩⟩

theorem of_assemble_eq_ok {stamp : Nat} {configuration : Configuration} {script : Script}
    {resolve : Layer → σ → Except ε Template × σ} {state : σ} {layout : Layout}
    (h : (assemble stamp configuration script resolve state).1 = .ok layout) :
    layout.stamp = stamp ∧ layout.configuration = configuration := by
  obtain ⟨hrun, -, -, -, hok⟩ := assemble_noting stamp configuration script resolve state
  rw [hrun] at h
  exact ⟨(hok layout h).stamp_eq, (hok layout h).configuration_eq⟩

theorem resolveAll_of_pure (template : Layer → Template) (layers : List Layer) (state : σ) :
    resolveAll (fun layer state => ((.ok (template layer) : Except ε Template), state)) layers
        state =
      (.ok ⟨layers.map template, List.length_map _⟩, state) := by
  induction layers with
  | nil => rfl
  | cons layer layers ih =>
    rw [resolveAll_of_ok rfl, ih]
    rfl

/-- A resolver without errors and without a state of its own gives the layout of its templates. -/
theorem assemble_of_pure (stamp : Nat) (configuration : Configuration) (script : Script)
    (template : Layer → Template) (state : σ) :
    assemble stamp configuration script
        (fun layer state => ((.ok (template layer) : Except ε Template), state)) state =
      (.ok (ofTemplates stamp configuration script template), state) := by
  rw [assemble_eq, resolveAll_of_pure]
  rfl

/-- A layout is made again from its own templates, up to the stamp. -/
theorem ofTemplates_get (layout : Layout) (stamp : Nat) :
    ofTemplates stamp layout.configuration layout.script
        (fun layer => (layout.get layer).toTemplate) = { layout with stamp } := by
  have htemplates :
      ⟨(Layer.all.map fun layer => (layout.get layer).toTemplate).toArray, rfl⟩ =
        layout.templates :=
    Vector.toList_inj.1 layout.toList_templates.symm
  exact congrArg (fun templates => { layout with stamp, templates }) htemplates

/-! ### Stocks -/

/-- Layouts that were assembled one after the other, each with a stamp that no layout before it
has. -/
inductive Stock : List Layout → Prop where
  | nil : Stock []
  | concat {σ ε : Type} {layouts : List Layout} {stamp : Nat} {configuration : Configuration}
    {script : Script} {resolve : Layer → σ → Except ε Template × σ} {state : σ} {layout : Layout}
    (h : Stock layouts) (fresh : ∀ other ∈ layouts, other.stamp ≠ stamp)
    (hl : (assemble stamp configuration script resolve state).1 = .ok layout) :
    Stock (layouts ++ [layout])

namespace Stock

variable {layouts : List Layout} {layout other : Layout}

theorem nodup (h : Stock layouts) : (layouts.map Layout.stamp).Nodup := by
  induction h with
  | nil => exact List.nodup_nil
  | concat h fresh hl ih =>
    rw [List.map_append, List.map_singleton, (of_assemble_eq_ok hl).1]
    refine List.Nodup.append ih (List.nodup_singleton _) ?_
    rintro stamp hstamp hlast
    obtain ⟨other, hother, rfl⟩ := List.mem_map.1 hstamp
    exact fresh other hother (List.mem_singleton.1 hlast)

theorem eq_of_stamp_eq (h : Stock layouts) (hl : layout ∈ layouts) (ho : other ∈ layouts)
    (hstamp : other.stamp = layout.stamp) : other = layout :=
  List.inj_on_of_nodup_map h.nodup ho hl hstamp

/-- **Identity of variants**: of the variants in stock, a layout contains those of its own and no
others. -/
theorem contains_iff (h : Stock layouts) (hl : layout ∈ layouts) (ho : other ∈ layouts)
    {v : Variant} (hv : v ∈ other.variants) : layout.contains v = true ↔ other = layout := by
  obtain ⟨layer, rfl⟩ := mem_variants.1 hv
  rw [contains_eq, beq_iff_eq, stamp_get]
  exact ⟨fun hstamp => h.eq_of_stamp_eq hl ho hstamp.symm, fun heq => heq ▸ rfl⟩

/-- Whatever is in stock, a layout can be assembled once more. -/
theorem again (h : Stock layouts) (layout : Layout) :
    ∃ stamp, (∀ other ∈ layouts, other.stamp ≠ stamp) ∧
      Stock (layouts ++ [{ layout with stamp }]) := by
  obtain ⟨stamp, hstamp⟩ := Infinite.exists_notMem_finset (layouts.map Layout.stamp).toFinset
  have hfresh : ∀ other ∈ layouts, other.stamp ≠ stamp := by
    rintro other hother rfl
    exact hstamp (List.mem_toFinset.2 (List.mem_map_of_mem hother))
  have hagain : assemble stamp layout.configuration layout.script
      (fun layer state => ((.ok (layout.get layer).toTemplate : Except Empty Template), state)) () =
        (.ok { layout with stamp }, ()) := by
    rw [assemble_of_pure, ofTemplates_get]
  exact ⟨stamp, hfresh, h.concat hfresh (congrArg Prod.fst hagain)⟩

end Stock

/-- **What a layout is.**

* An assembly asks the resolver for the layers by their places, from the first on and each at most
  once, and each in the state in which the call before has left the resolver.  The first error ends
  it, and is its result.  If there is none, the layout has exactly one variant of each layer, at the
  layer's place, with the configuration of the layout and what the resolver answered for the layer.
* A layout contains a variant exactly if that is one and the same as one of its own.
* So among layouts that were assembled at various times, a layout contains its own variants, and
  none of another one.  What it contains is interchangeable with its own variant of that layer.  The
  converse fails for every layout: assembled once more, it has variants of equal contents that the
  first one does not contain. -/
theorem assembly_represents :
    (∀ {σ ε : Type} (stamp : Nat) (configuration : Configuration) (script : Script)
        (resolve : Layer → σ → Except ε Template × σ) (state : σ),
      let r := assemble stamp configuration script (noting resolve) (state, [])
      let calls := r.2.2
      assemble stamp configuration script resolve state = (r.1, r.2.1) ∧
        Replies resolve state calls r.2.1 ∧
        calls.map (fun call => call.layer.index.val) = List.range calls.length ∧
        (∀ e, r.1 = .error e → StopsAt calls e) ∧
        ∀ layout, r.1 = .ok layout → layout.Represents stamp configuration script calls) ∧
    (∀ (layout : Layout) (v : Variant),
      layout.contains v = true ↔ ∃ w ∈ layout.variants, w.isSame v = true) ∧
    ∀ layouts, Stock layouts → ∀ layout ∈ layouts,
      (∀ other ∈ layouts, ∀ v ∈ other.variants,
        (layout.contains v = true ↔ v ∈ layout.variants) ∧
          (other ≠ layout → layout.contains v = false) ∧
          (layout.contains v = true → v.isInterchangeable (layout.get v.layer) = true)) ∧
      ∃ other : Layout, Stock (layouts ++ [other]) ∧ ∀ layer,
        (other.get layer).hasEqualContent (layout.get layer) = true ∧
          (other.get layer).isInterchangeable (layout.get layer) = true ∧
          layout.contains (other.get layer) = false := by
  refine ⟨?_, fun layout v => contains_iff_exists_isSame, ?_⟩
  · intro σ ε stamp configuration script resolve state r calls
    obtain ⟨hrun, hreplies, hprefix, herror, hok⟩ :=
      assemble_noting stamp configuration script resolve state
    refine ⟨hrun, hreplies, ?_, herror, hok⟩
    have hplaces := Layer.map_index_of_prefix hprefix
    rwa [List.map_map, List.length_map] at hplaces
  · intro layouts h layout hl
    refine ⟨fun other ho v hv => ?_, ?_⟩
    · have hcontains := h.contains_iff hl ho hv
      refine ⟨⟨fun hc => hcontains.1 hc ▸ hv, fun hmem => (h.contains_iff hl hl hmem).2 rfl⟩,
        fun hne => Bool.eq_false_iff.2 fun hc => hne (hcontains.1 hc), fun hc => ?_⟩
      obtain rfl := hcontains.1 hc
      obtain ⟨layer, rfl⟩ := mem_variants.1 hv
      simp [Variant.isInterchangeable]
    · obtain ⟨stamp, hfresh, hstock⟩ := h.again layout
      refine ⟨{ layout with stamp }, hstock, fun layer => ⟨?_, ?_, ?_⟩⟩
      · simp [Variant.hasEqualContent, Variant.isInterchangeable, get]
      · simp [Variant.isInterchangeable]
      · rw [contains_eq]
        exact beq_false_of_ne (hfresh layout hl)

/-- The resolver counts its calls and has an answer for twelve of them only: eight in the first
assembly, and four in the second, which its fifth call ends. -/
theorem assembly_represents_counted :
    let resolve : Layer → Nat → Except String Template × Nat := fun _ count =>
      if count < 12 then (.ok { topPadding := count.toUInt32 }, count + 1)
      else (.error "spent", count)
    let first := assemble 0 {} .latin (noting resolve) (0, [])
    let second := assemble 1 {} .latin (noting resolve) (first.2.1, [])
    second.1 = .error "spent" ∧ StopsAt second.2.2 "spent" ∧
      second.2.2.map (fun call => call.layer.index.val) = List.range 5 ∧
      ∃ layout, first.1 = .ok layout ∧ Stock [layout] ∧ (layout.get .emoji).topPadding = 7 ∧
        (layout.variants.filter fun v => v.layer = .symbols) = [layout.get .symbols] ∧
        (layout.get .symbols).isInterchangeable (layout.get .symbols) = true ∧
        ∃ other : Layout, (other.get .emoji).hasEqualContent (layout.get .emoji) = true ∧
          layout.contains (other.get .emoji) = false := by
  intro resolve first second
  obtain ⟨hassembly, -, hstock⟩ := assembly_represents
  have hsecond : second.1 = .error "spent" := rfl
  obtain ⟨hrun, -, -, -, hok⟩ := hassembly 0 {} .latin resolve 0
  obtain ⟨-, -, hplaces, herror, -⟩ := hassembly 1 {} .latin resolve first.2.1
  obtain ⟨layout, hfirst⟩ : ∃ layout, first.1 = .ok layout := ⟨_, rfl⟩
  have hlayout : Stock [layout] :=
    Stock.nil.concat (fun other h => (by cases h)) ((congrArg Prod.fst hrun).trans hfirst)
  have hmem : layout ∈ [layout] := List.mem_singleton_self layout
  obtain ⟨hown, other, -, hother⟩ := hstock [layout] hlayout layout hmem
  have hsymbols := hown layout hmem (layout.get .symbols) (mem_variants.2 ⟨_, rfl⟩)
  have hpadding : (layout.get .emoji).topPadding = 7 := by
    cases hfirst
    rfl
  exact ⟨hsecond, herror "spent" hsecond, hplaces, layout, hfirst, hlayout, hpadding,
    (hok layout hfirst).one .symbols, hsymbols.2.2 (hsymbols.1.2 (mem_variants.2 ⟨_, rfl⟩)),
    other, (hother .emoji).1, (hother .emoji).2.2⟩

end Layout

end SoftKeyboard
