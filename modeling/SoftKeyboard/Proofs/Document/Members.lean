import Mathlib.Data.List.Count
import Mathlib.Data.List.Forall2
import SoftKeyboard.Document.Decode

/-!
# Structures from some of their members

What `Document.toRecord?` makes of an object whose members have the values that a structure `a` has
in its fields, or names that no field has (`Gives`).  In whatever order the members come, a field
that is written is that of `a` and any other is that of the structure that reading starts from
(`toRecord?_of_gives`).  A field that is written twice refuses the object
(`toRecord?_of_repeated`), and so does a required field that is not written
(`toRecord?_of_missing`).
-/

namespace SoftKeyboard.Document

variable {α β : Type}

/-! ### One field -/

/-- Whether a document has the value that a structure has in a field: reading it there changes
nothing. -/
def Field.Holds (a : α) (field : Field α) (d : Document) : Prop := field.set? a d = some a

instance [DecidableEq α] (a : α) (field : Field α) (d : Document) : Decidable (field.Holds a d) :=
  inferInstanceAs (Decidable (_ = _))

/-- Whether `copy` does to every structure what reading a document of `a`'s value in the field
does. -/
def Field.Copies (a : α) (field : Field α) (copy : α → α) : Prop :=
  ∀ d, field.Holds a d → ∀ b, field.set? b d = some (copy b)

/-- A field that is put in place where it is taken from is copied by putting it in place. -/
theorem Field.copies_of_get {read? : Document → Option β} {put : β → α → α} (get : α → β)
    (hget : ∀ x b, get (put x b) = x) (name : String) (required : Bool) (a : α) :
    Copies a ⟨name, required, fun b d => (read? d).map (put · b)⟩ (put (get a)) := by
  intro d hd b
  obtain ⟨x, hread, hput⟩ := Option.map_eq_some_iff.1 hd
  have hx : get a = x := by rw [← hput, hget]
  show (read? d).map (put · b) = _
  rw [hread, Option.map_some, hx]

/-- The members of a record that a field can be read from. -/
theorem filter_record (members : List (String × Document)) (name : String) :
    (members.map fun (key, d) => (some key, d)).filter (fun m => m.1 = some name) =
      (members.filter (fun m => m.1 = name)).map fun (key, d) => (some key, d) := by
  rw [List.filter_map]
  congr 2
  funext member
  simp

theorem length_filter_name (members : List (String × Document)) (name : String) :
    (members.filter (fun m => m.1 = name)).length = (members.map Prod.fst).count name := by
  rw [List.count, List.countP_map, List.countP_eq_length_filter]
  rfl

variable {field : Field α} {members : List (String × Document)}

/-- A field that no member writes stays as it is, unless it is required. -/
theorem Field.ofMembers?_of_notMem (h : field.name ∉ members.map Prod.fst) (b : α) :
    ofMembers? (members.map fun (key, d) => (some key, d)) b field =
      if field.required then none else some b := by
  have hlength := length_filter_name members field.name
  rw [List.count_eq_zero.2 h, List.length_eq_zero_iff] at hlength
  rw [ofMembers?, filter_record, hlength]
  rfl

/-- A field that one member writes is read from it. -/
theorem Field.ofMembers?_of_count_eq_one
    (h : (members.map Prod.fst).count field.name = 1) :
    ∃ member ∈ members, member.1 = field.name ∧
      ∀ b, ofMembers? (members.map fun (key, d) => (some key, d)) b field = field.set? b member.2 := by
  have hlength := length_filter_name members field.name
  rw [h, List.length_eq_one_iff] at hlength
  obtain ⟨member, hmember⟩ := hlength
  have hmem : member ∈ members.filter (fun m => m.1 = field.name) := by simp [hmember]
  obtain ⟨hmem, hname⟩ := List.mem_filter.1 hmem
  refine ⟨member, hmem, by simpa using hname, fun b => ?_⟩
  rw [ofMembers?, filter_record, hmember]
  rfl

/-- A field that two members write is refused. -/
theorem Field.ofMembers?_of_repeated (h : 1 < (members.map Prod.fst).count field.name) (b : α) :
    ofMembers? (members.map fun (key, d) => (some key, d)) b field = none := by
  rw [← length_filter_name] at h
  rw [ofMembers?, filter_record]
  generalize members.filter (fun m => m.1 = field.name) = own at h
  match own with
  | [] | [_] => simp at h
  | _ :: _ :: _ => rfl

/-! ### Structures -/

/-- Whether a member has the value that a structure has in the field of its name.  A member whose
name no field has may have any value. -/
def Gives (fields : List (Field α)) (a : α) (member : String × Document) : Prop :=
  ∀ field ∈ fields, field.name = member.1 → field.Holds a member.2

instance [DecidableEq α] (fields : List (Field α)) (a : α) (member : String × Document) :
    Decidable (Gives fields a member) :=
  inferInstanceAs (Decidable (∀ field ∈ fields, field.name = member.1 → field.Holds a member.2))

theorem Field.holds_of_read {read? : Document → Option β} {put : β → α → α} {name : String}
    {required : Bool} {a : α} {x : β} {d : Document} (hread : read? d = some x)
    (hput : put x a = a) : Holds a ⟨name, required, fun b d => (read? d).map (put · b)⟩ d := by
  show (read? d).map (put · a) = some a
  rw [hread, Option.map_some, hput]

theorem map_fst_of_forall₂ {a : α} {fields : List (Field α)} {members : List (String × Document)}
    (h : List.Forall₂ (fun field member => field.name = member.1 ∧ field.Holds a member.2)
      fields members) : members.map Prod.fst = fields.map Field.name := by
  induction h with
  | nil => rfl
  | cons hhead _ ih => rw [List.map_cons, List.map_cons, hhead.1, ih]

/-- The members that write the fields of a structure, whose names differ, have its values. -/
theorem gives_of_forall₂ {a : α} {fields : List (Field α)} {members : List (String × Document)}
    (h : List.Forall₂ (fun field member => field.name = member.1 ∧ field.Holds a member.2)
      fields members)
    (hnodup : (fields.map Field.name).Nodup) : ∀ member ∈ members, Gives fields a member := by
  induction h with
  | nil => exact fun _ hmember => nomatch hmember
  | @cons field member fields members hholds hrest ih =>
    obtain ⟨hfield, hnodup⟩ := List.nodup_cons.1 hnodup
    have hnames := map_fst_of_forall₂ hrest
    intro other hother field' hfield' hname
    rcases List.mem_cons.1 hother with rfl | hother
    · rcases List.mem_cons.1 hfield' with rfl | hfield'
      · exact hholds.2
      · -- Another field with the name of the first.
        rw [hholds.1, ← hname] at hfield
        exact absurd (List.mem_map_of_mem hfield') hfield
    · rcases List.mem_cons.1 hfield' with rfl | hfield'
      · -- Another member with the name of the first field.
        rw [← hnames, hname] at hfield
        exact absurd (List.mem_map_of_mem hother) hfield
      · exact ih hnodup other hother field' hfield' hname

/-- What `toRecord?` does with a record, whose keys are all texts. -/
theorem toRecord?_record_eq (fields : List (Field α)) (base : α)
    (members : List (String × Document)) :
    toRecord? fields base (record members) =
      fields.foldlM (Field.ofMembers? (members.map fun (key, d) => (some key, d))) base := by
  have hkeys : (members.map fun (key, d) => (some key, d)).all (fun m => m.1.isSome) := by simp
  exact if_pos hkeys

/-- A structure with the fields of the given names copied. -/
def copied (names : List String) (copies : List (String × (α → α))) (b : α) : α :=
  copies.foldl (fun b (name, copy) => if name ∈ names then copy b else b) b

/-- One field after another is copied, or stays as it is. -/
theorem foldlM_ofMembers? {a : α} {fields : List (Field α)} {copies : List (String × (α → α))}
    (hcopies : List.Forall₂ (fun field copy => field.name = copy.1 ∧ field.Copies a copy.2)
      fields copies)
    (hgives : ∀ member ∈ members, Gives fields a member)
    (honce : ∀ field ∈ fields, (members.map Prod.fst).count field.name ≤ 1)
    (hrequired : ∀ field ∈ fields, field.required → field.name ∈ members.map Prod.fst) (b : α) :
    fields.foldlM (Field.ofMembers? (members.map fun (key, d) => (some key, d))) b =
      some (copied (members.map Prod.fst) copies b) := by
  induction hcopies generalizing b with
  | nil => rfl
  | @cons field copy fields copies hcopy _ ih =>
    obtain ⟨hname, hcopy⟩ := hcopy
    rw [List.forall_mem_cons] at honce hrequired
    have hfield : ∀ member ∈ members, field.name = member.1 → field.Holds a member.2 :=
      fun member hmember => hgives member hmember field List.mem_cons_self
    have hrest : ∀ member ∈ members, Gives fields a member :=
      fun member hmember other hother => hgives member hmember other (List.mem_cons_of_mem _ hother)
    have hstep : Field.ofMembers? (members.map fun (key, d) => (some key, d)) b field =
        some (if copy.1 ∈ members.map Prod.fst then copy.2 b else b) := by
      rw [← hname]
      by_cases hmem : field.name ∈ members.map Prod.fst
      · have hcount := List.count_pos_iff.2 hmem
        obtain ⟨member, hmember, hkey, hread⟩ :=
          Field.ofMembers?_of_count_eq_one (Nat.le_antisymm honce.1 hcount)
        rw [hread, if_pos hmem]
        exact hcopy _ (hfield member hmember hkey.symm) b
      · have hoptional : field.required = false := by simpa using mt hrequired.1 hmem
        rw [Field.ofMembers?_of_notMem hmem, hoptional, if_neg hmem]
        rfl
    rw [List.foldlM_cons, hstep]
    exact ih hrest honce.2 hrequired.2 _

/-- **A structure is read from some of its members**: in any order and among members of unknown
names. -/
theorem toRecord?_of_gives {a : α} {fields : List (Field α)} {copies : List (String × (α → α))}
    (hcopies : List.Forall₂ (fun field copy => field.name = copy.1 ∧ field.Copies a copy.2)
      fields copies)
    (hgives : ∀ member ∈ members, Gives fields a member)
    (honce : ∀ field ∈ fields, (members.map Prod.fst).count field.name ≤ 1)
    (hrequired : ∀ field ∈ fields, field.required → field.name ∈ members.map Prod.fst) (base : α) :
    toRecord? fields base (record members) = some (copied (members.map Prod.fst) copies base) := by
  rw [toRecord?_record_eq]
  exact foldlM_ofMembers? hcopies hgives honce hrequired base

/-- A field that is always refused refuses the structure. -/
theorem foldlM_eq_none {step : α → Field α → Option α} {fields : List (Field α)}
    (hmem : field ∈ fields) (h : ∀ b, step b field = none) (base : α) :
    fields.foldlM step base = none := by
  induction fields generalizing base with
  | nil => cases hmem
  | cons head fields ih =>
    rw [List.foldlM_cons]
    rcases List.mem_cons.1 hmem with rfl | hmem
    · rw [h]
      rfl
    · cases step base head with
      | none => rfl
      | some b => exact ih hmem b

/-- **A field that is written twice refuses the structure**, whatever is written. -/
theorem toRecord?_of_repeated {fields : List (Field α)} (hmem : field ∈ fields)
    (h : 1 < (members.map Prod.fst).count field.name) (base : α) :
    toRecord? fields base (record members) = none := by
  rw [toRecord?_record_eq]
  exact foldlM_eq_none hmem (Field.ofMembers?_of_repeated h) base

/-- **A required field that is not written refuses the structure.** -/
theorem toRecord?_of_missing {fields : List (Field α)} (hmem : field ∈ fields)
    (hrequired : field.required = true) (h : field.name ∉ members.map Prod.fst) (base : α) :
    toRecord? fields base (record members) = none := by
  rw [toRecord?_record_eq]
  refine foldlM_eq_none hmem (fun b => ?_) base
  rw [Field.ofMembers?_of_notMem h, if_pos hrequired]

end SoftKeyboard.Document
