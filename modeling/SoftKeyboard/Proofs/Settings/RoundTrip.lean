import SoftKeyboard.Editor
import SoftKeyboard.Layout.Basic
import SoftKeyboard.Settings.Codec
import SoftKeyboard.Proofs.Document.Values
import SoftKeyboard.Proofs.Numeric.ReadBack

/-!
# Values are read back as they were written

Settings, and every kind of value that they and the layouts are made of, are read back from their
texts (`Settings.read_of_written`).  For each kind this takes two facts: that a text can hold the
document of the value, and that the reader gives the value back for its document
(`Document.roundTrips_of_read`).

The numerals of single-precision numbers are left to a hypothesis on the numbers of the value at
hand, `Single.ReadsBack`, which says that they are finite (`Single.readsBack_iff`).
-/

namespace SoftKeyboard

/-- Whether a value is read back from the text that is written for it. -/
def Document.RoundTrips {α : Type} (write : α → Document) (read? : Document → Option α) (a : α) :
    Prop :=
  (parse? (write a).render).bind read? = some a

theorem Document.roundTrips_of_read {α : Type} {write : α → Document} {read? : Document → Option α}
    {a : α} (hwell : (write a).WellFormed) (hread : read? (write a) = some a) :
    RoundTrips write read? a := by
  rw [RoundTrips, parse?_render hwell, Option.bind_some, hread]

open Document (RoundTrips roundTrips_of_read wellFormed_string wellFormed_record wellFormed_array
  wellFormed_word wellFormed_single wellFormed_bool wellFormed_null toRecord?_record toChoice?_string
  ofItems? requiredField optionalField)

/-! ### Numbers -/

namespace Single

/-- Whether a number is read back from the numeral that is written for it: the shortest decimal,
read in double precision and then rounded. -/
def ReadsBack (x : Single) : Prop := (Document.single x).toSingle? = some x

instance : DecidablePred ReadsBack := fun _ => inferInstanceAs (Decidable (_ = _))

/-- A number that is not finite has no numeral. -/
theorem single_of_not_isFinite {x : Single} (h : ¬ x.IsFinite) : Document.single x = .null := by
  unfold Document.single
  cases hnumeral : Numeral.ofSingle? x with
  | none => rfl
  | some n => exact absurd (Numeral.exists_ofSingle?_iff.1 ⟨n, hnumeral⟩) h

/-- The numbers that are read back are the finite ones. -/
theorem readsBack_iff {x : Single} : x.ReadsBack ↔ x.IsFinite := by
  constructor
  · intro h
    by_contra hinfinite
    rw [ReadsBack, single_of_not_isFinite hinfinite] at h
    cases h
  · intro h
    obtain ⟨n, hn⟩ := Numeral.exists_ofSingle?_iff.2 h
    rw [ReadsBack, Document.single, hn]
    exact Numeral.toSingle?_of_ofSingle? hn

theorem ReadsBack.equals_self {x : Single} (h : x.ReadsBack) : x.equals x := by
  obtain ⟨negative, m, hvalue⟩ := readsBack_iff.1 h
  simp [equals, isNaN, hvalue]

end Single

/-! ### Names -/

theorem Layer.roundTrips (layer : Layer) : RoundTrips toDocument ofDocument? layer :=
  roundTrips_of_read (wellFormed_string _)
    (toChoice?_string (by decide) (by cases layer <;> decide))

theorem Script.ofDocument?_toDocument (script : Script) :
    ofDocument? script.toDocument = some script :=
  toChoice?_string (by decide) (by cases script <;> decide)

theorem Script.roundTrips (script : Script) : RoundTrips toDocument ofDocument? script :=
  roundTrips_of_read (wellFormed_string _) script.ofDocument?_toDocument

theorem InputKind.ofDocument?_toDocument (kind : InputKind) :
    ofDocument? kind.toDocument = some kind :=
  toChoice?_string (by decide) (by cases kind <;> decide)

theorem InputKind.roundTrips (kind : InputKind) : RoundTrips toDocument ofDocument? kind :=
  roundTrips_of_read (wellFormed_string _) kind.ofDocument?_toDocument

theorem Mode.roundTrips (mode : Mode) : RoundTrips toDocument ofDocument? mode :=
  roundTrips_of_read (wellFormed_string _)
    (toChoice?_string (by decide) (by cases mode <;> decide))

/-! ### Parts of settings -/

namespace Editor

theorem ofDocument?_toDocument (editor : Editor) : ofDocument? editor.toDocument = some editor := by
  rw [ofDocument?, toDocument, toRecord?_record rfl (by decide)]
  simp [fields, ofItems?, requiredField, InputKind.ofDocument?_toDocument]

theorem roundTrips (editor : Editor) : RoundTrips toDocument ofDocument? editor :=
  roundTrips_of_read (wellFormed_record (by simp [InputKind.toDocument]))
    (ofDocument?_toDocument editor)

end Editor

namespace InputSubtype

theorem wellFormed_toDocument (s : InputSubtype) : s.toDocument.WellFormed :=
  wellFormed_record (by simp)

theorem ofDocument?_toDocument (s : InputSubtype) : ofDocument? s.toDocument = some s := by
  rw [ofDocument?, toDocument, toRecord?_record rfl (by decide)]
  simp [fields, ofItems?, requiredField]

theorem roundTrips (s : InputSubtype) : RoundTrips toDocument ofDocument? s :=
  roundTrips_of_read s.wellFormed_toDocument s.ofDocument?_toDocument

end InputSubtype

theorem IconSet.ofDocument?_toDocument (icons : IconSet) :
    ofDocument? icons.toDocument = some icons := Document.toMap?_map fun _ _ => rfl

theorem IconSet.roundTrips (icons : IconSet) : RoundTrips toDocument ofDocument? icons := by
  refine roundTrips_of_read (wellFormed_record fun member hmember => ?_)
    icons.ofDocument?_toDocument
  obtain ⟨entry, -, rfl⟩ := List.mem_map.1 hmember
  exact wellFormed_string entry.2

namespace ThemeId

theorem ofDocument?_toDocument (id : ThemeId) : ofDocument? id.toDocument = some id := by
  simp [ofDocument?, toDocument]

theorem roundTrips (id : ThemeId) : RoundTrips toDocument ofDocument? id :=
  roundTrips_of_read (wellFormed_word id.number) id.ofDocument?_toDocument

end ThemeId

namespace PreviewAnimation

/-- The single-precision numbers of an animation. -/
def singles (a : PreviewAnimation) : List Single := [a.startX, a.startY, a.endX, a.endY]

theorem wellFormed_toDocument (a : PreviewAnimation) : a.toDocument.WellFormed :=
  wellFormed_record (by simp [wellFormed_single, wellFormed_word])

theorem ofDocument?_toDocument {a : PreviewAnimation} (h : ∀ x ∈ a.singles, x.ReadsBack) :
    ofDocument? a.toDocument = some a := by
  simp only [singles, List.forall_mem_cons, Single.ReadsBack] at h
  obtain ⟨hstartX, hstartY, hendX, hendY, -⟩ := h
  rw [ofDocument?, toDocument, toRecord?_record rfl (by decide)]
  simp [fields, ofItems?, requiredField, hstartX, hstartY, hendX, hendY]

theorem roundTrips {a : PreviewAnimation} (h : ∀ x ∈ a.singles, x.ReadsBack) :
    RoundTrips toDocument ofDocument? a :=
  roundTrips_of_read a.wellFormed_toDocument (ofDocument?_toDocument h)

theorem equals_self {a : PreviewAnimation} (h : ∀ x ∈ a.singles, x.ReadsBack) : a.equals a := by
  have hequals : ∀ x ∈ a.singles, x.equals x := fun x hx => (h x hx).equals_self
  simp only [singles, List.forall_mem_cons] at hequals
  simp [equals, hequals]

end PreviewAnimation

/-! ### Settings -/

namespace Settings

/-- The single-precision numbers of settings. -/
def singles (s : Settings) : List Single :=
  s.heightScale :: (s.previewAnimation.map PreviewAnimation.singles).getD []

theorem wellFormed_toDocument (s : Settings) : s.toDocument.WellFormed := by
  have hsubtypes : (Document.array (s.enabledSubtypes.map InputSubtype.toDocument)).WellFormed :=
    wellFormed_array fun item hitem => by
      obtain ⟨subtype, -, rfl⟩ := List.mem_map.1 hitem
      exact subtype.wellFormed_toDocument
  have hanimation :
      (Document.nullable PreviewAnimation.toDocument s.previewAnimation).WellFormed := by
    cases s.previewAnimation with
    | none => exact wellFormed_null
    | some a => exact a.wellFormed_toDocument
  refine wellFormed_record ?_
  simp [members, ThemeId.toDocument, s.subtype.wellFormed_toDocument, hsubtypes, hanimation,
    wellFormed_single, wellFormed_word]

theorem toList?_enabledSubtypes (s : Settings) : Document.toList? InputSubtype.ofDocument?
    (.array (s.enabledSubtypes.map InputSubtype.toDocument)) = some s.enabledSubtypes :=
  Document.toList?_array fun subtype _ => subtype.ofDocument?_toDocument

theorem toNullable?_previewAnimation {s : Settings} (h : ∀ x ∈ s.singles, x.ReadsBack) :
    Document.toNullable? PreviewAnimation.ofDocument?
      (.nullable PreviewAnimation.toDocument s.previewAnimation) = some s.previewAnimation := by
  refine Document.toNullable?_nullable (fun a ha => ?_) fun _ => nofun
  refine PreviewAnimation.ofDocument?_toDocument fun x hx => h x ?_
  simp [singles, Option.mem_def.1 ha, hx]

theorem ofDocument?_toDocument {s : Settings} (h : ∀ x ∈ s.singles, x.ReadsBack) :
    ofDocument? s.toDocument = some s := by
  have hscale : (Document.single s.heightScale).toSingle? = some s.heightScale :=
    h _ List.mem_cons_self
  rw [ofDocument?, update?, toDocument, members, toRecord?_record rfl (by decide)]
  simp [fields, ofItems?, optionalField, ThemeId.ofDocument?_toDocument,
    InputSubtype.ofDocument?_toDocument, toList?_enabledSubtypes, hscale,
    toNullable?_previewAnimation h]

theorem roundTrips {s : Settings} (h : ∀ x ∈ s.singles, x.ReadsBack) :
    RoundTrips toDocument ofDocument? s :=
  roundTrips_of_read s.wellFormed_toDocument (ofDocument?_toDocument h)

/-- Settings whose numbers are read back equal themselves. -/
theorem equals_self {s : Settings} (h : ∀ x ∈ s.singles, x.ReadsBack) : s.equals s := by
  have hscale := (h s.heightScale List.mem_cons_self).equals_self
  cases hanimation : s.previewAnimation with
  | none => simp [equals, hscale, hanimation]
  | some a =>
    have ha : a.equals a :=
      PreviewAnimation.equals_self fun x hx => h x (by simp [singles, hanimation, hx])
    simp [equals, hscale, hanimation, ha]

/-- **Every value is read back as it was written**, and in settings and animations the numbers
compare equal to what they were, if the numerals of their numbers are read back. -/
theorem read_of_written :
    (∀ s : Settings, (∀ x ∈ s.singles, x.ReadsBack) → ofText? s.toText = some s ∧ s.equals s) ∧
    (∀ a : PreviewAnimation, (∀ x ∈ a.singles, x.ReadsBack) →
      RoundTrips PreviewAnimation.toDocument PreviewAnimation.ofDocument? a ∧ a.equals a) ∧
    (∀ subtype, RoundTrips InputSubtype.toDocument InputSubtype.ofDocument? subtype) ∧
    (∀ icons, RoundTrips IconSet.toDocument IconSet.ofDocument? icons) ∧
    (∀ id, RoundTrips ThemeId.toDocument ThemeId.ofDocument? id) ∧
    (∀ editor, RoundTrips Editor.toDocument Editor.ofDocument? editor) ∧
    (∀ kind, RoundTrips InputKind.toDocument InputKind.ofDocument? kind) ∧
    (∀ mode, RoundTrips Mode.toDocument Mode.ofDocument? mode) ∧
    (∀ layer, RoundTrips Layer.toDocument Layer.ofDocument? layer) ∧
    ∀ script, RoundTrips Script.toDocument Script.ofDocument? script :=
  ⟨fun _ h => ⟨roundTrips h, equals_self h⟩,
    fun _ h => ⟨PreviewAnimation.roundTrips h, PreviewAnimation.equals_self h⟩,
    InputSubtype.roundTrips, IconSet.roundTrips, ThemeId.roundTrips, Editor.roundTrips,
    InputKind.roundTrips, Mode.roundTrips, Layer.roundTrips, Script.roundTrips⟩

/-- Settings with two quotes, a backslash and a control character in their texts, no subtype
enabled, and an animation of the user's own. -/
def peculiar : Settings where
  subtype := ⟨"\"en\"\\", "qwerty\x01\n"⟩
  enabledSubtypes := []
  heightScale := .ofDecimal 15 1
  previewAnimation := some { startX := .ofDecimal 1 45, showMs := 0 }

theorem peculiar_read_of_written :
    (∀ x ∈ peculiar.singles, x.ReadsBack) ∧ ofText? peculiar.toText = some peculiar ∧
      peculiar.equals peculiar := by
  have hsingles : ∀ x ∈ peculiar.singles, x.ReadsBack := by decide +kernel
  exact ⟨hsingles, read_of_written.1 peculiar hsingles⟩

end Settings

end SoftKeyboard
