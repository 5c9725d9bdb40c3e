import SoftKeyboard.Proofs.Settings.Partial

/-!
# Saving and loading settings

Settings that were read from a text can be read again from the text that is written for them if and
only if their numbers are finite (`Settings.reload_of_read`).  A number of a text need not be: a
numeral beyond the range of single precision is read as an infinity, and that is written as null.
-/

namespace SoftKeyboard

open Document (toRecord?_record ofItems? requiredField optionalField)

/-- An animation with a number that is not finite is not read back. -/
theorem PreviewAnimation.ofDocument?_eq_none {a : PreviewAnimation} {x : Single}
    (hx : x ∈ a.singles) (h : ¬ x.IsFinite) : ofDocument? a.toDocument = none := by
  have hrefused : (Document.single x).toSingle? = none := by
    rw [Single.single_of_not_isFinite h]
    rfl
  simp only [singles, List.mem_cons, List.not_mem_nil, or_false] at hx
  rw [ofDocument?, toDocument, toRecord?_record rfl (by decide)]
  obtain rfl | rfl | rfl | rfl := hx <;>
    simp [fields, ofItems?, requiredField, hrefused]

/-- Settings with a number that is not finite are not read back. -/
theorem Settings.ofDocument?_eq_none {s : Settings} {x : Single}
    (hx : x ∈ s.singles) (h : ¬ x.IsFinite) : ofDocument? s.toDocument = none := by
  rw [ofDocument?, update?, toDocument, members, toRecord?_record rfl (by decide)]
  rcases List.mem_cons.1 hx with rfl | hx
  · have hrefused : (Document.single s.heightScale).toSingle? = none := by
      rw [Single.single_of_not_isFinite h]
      rfl
    simp [fields, ofItems?, optionalField, hrefused]
  · cases hanimation : s.previewAnimation with
    | none => simp [hanimation] at hx
    | some a =>
      have hrefused := PreviewAnimation.ofDocument?_eq_none (by simpa [hanimation] using hx) h
      have hnullable : Document.toNullable? PreviewAnimation.ofDocument? a.toDocument = none := by
        show (PreviewAnimation.ofDocument? a.toDocument).map some = none
        rw [hrefused]
        rfl
      simp [fields, ofItems?, optionalField, Document.nullable, hnullable]

/-- **Settings that were read can be saved and read again** as they were, and equal themselves, when
their numbers are finite; otherwise they cannot be read again. -/
theorem Settings.reload_of_read (source : String) (s : Settings) (_ : ofText? source = some s) :
    ((∀ x ∈ s.singles, x.IsFinite) → ofText? s.toText = some s ∧ s.equals s) ∧
      ((∃ x ∈ s.singles, ¬ x.IsFinite) → ofText? s.toText = none) := by
  constructor
  · intro hfinite
    have h : ∀ x ∈ s.singles, x.ReadsBack := fun x hx => Single.readsBack_iff.2 (hfinite x hx)
    exact ⟨roundTrips h, equals_self h⟩
  · rintro ⟨x, hx, h⟩
    rw [ofText?, toText, Document.parse?_render s.wellFormed_toDocument, Option.bind_some,
      ofDocument?_eq_none hx h]

/-- A text of settings with the least positive scale, spelled with more digits than it needs. -/
def Settings.tiny : String := "\x7b\"keyboard_height_scale\": 1401298e-51\x7d"

theorem Settings.reload_of_read_tiny :
    let s : Settings := { heightScale := ⟨1⟩ }
    ofText? tiny = some s ∧ (∀ x ∈ s.singles, x.IsFinite) ∧ ofText? s.toText = some s ∧
      s.equals s := by
  intro s
  have hread : ofText? tiny = some s := by decide +kernel
  have hsingles : ∀ x ∈ s.singles, x.IsFinite := by decide +kernel
  exact ⟨hread, hsingles, (reload_of_read _ _ hread).1 hsingles⟩

/-- A text of settings with a scale beyond the range of single precision. -/
def Settings.towering : String := "\x7b\"keyboard_height_scale\": 1e39\x7d"

/-- Settings with such a scale are read, but not again from what is written for them. -/
theorem Settings.towering_not_reloaded :
    ofText? towering = some { heightScale := .infinity false } ∧
      ofText? ({ heightScale := .infinity false } : Settings).toText = none := by
  have hread : ofText? towering = some { heightScale := .infinity false } := by decide +kernel
  have hinfinite : ¬ (Single.infinity false).IsFinite := by
    rintro ⟨negative, m, h⟩
    cases h
  refine ⟨hread, ?_⟩
  rw [ofText?, toText, Document.parse?_render (wellFormed_toDocument _), Option.bind_some,
    ofDocument?_eq_none List.mem_cons_self hinfinite]

end SoftKeyboard
