import SoftKeyboard.Document.Decode
import SoftKeyboard.Proofs.Document.Reading
import SoftKeyboard.Proofs.SortedMap

/-!
# Reading written values

The reader of each kind of value gives back what its writer was given.
-/

namespace SoftKeyboard

/-! ### Numerals of single-precision numbers -/

namespace RoundingInterval

theorem pos_of_onGrid? {i : RoundingInterval} {q : Int} {digits : Nat}
    (h : i.onGrid? q = some digits) : 0 < digits := by
  unfold onGrid? at h
  dsimp only at h
  split_ifs at h with hnearest hbelow hnext
  all_goals
    obtain rfl := Option.some.inj h
    simp_all

theorem pos_of_search {i : RoundingInterval} {fuel : Nat} {q : Int} {x : Decimal}
    (h : i.search fuel q = some x) : 0 < x.digits := by
  induction fuel generalizing q with
  | zero => cases h
  | succ fuel ih =>
    rw [search] at h
    split at h
    · next digits hdigits =>
      obtain rfl := Option.some.inj h
      exact pos_of_onGrid? hdigits
    · exact ih h

end RoundingInterval

/-- A shortest decimal without digits is a plain zero. -/
theorem Single.exponent_shortest {x : Dyadic} (h : (shortest x).digits = 0) :
    (shortest x).exponent = 0 := by
  unfold shortest at h ⊢
  cases hsearch : (RoundingInterval.ofSingle x).search 100 39 with
  | none => rfl
  | some decimal =>
    rw [hsearch] at h
    exact absurd h (RoundingInterval.pos_of_search hsearch).ne'

namespace Numeral

/-- A decimal is written so that a text can hold it. -/
theorem wellFormed_ofDecimal (negative : Bool) {x : Decimal} (hx : x.digits = 0 → x.exponent = 0) :
    (ofDecimal negative x).WellFormed := by
  by_cases hzero : x.digits = 0
  · have hplain : ofDecimal negative x = ⟨negative, [.zero], [.zero], none⟩ := by
      simp [ofDecimal, hzero, hx hzero, Digit.ofNat_zero]
    rw [hplain]
    exact wellFormed_plain isWhole_zero
  · obtain ⟨d, ds, hdigits⟩ := List.exists_cons_of_ne_nil (Digit.ofNat_ne_nil x.digits)
    have hd : d ≠ .zero := fun h => hzero (Digit.eq_zero_of_ofNat_eq (h ▸ hdigits))
    unfold ofDecimal
    dsimp only
    rw [hdigits]
    split_ifs with hlarge hmiddle hsmall
    · exact wellFormed_plain (isWhole_cons hd _)
    · obtain ⟨places, hplaces⟩ : ∃ n, (((d :: ds).length : Int) + x.exponent).toNat = n + 1 :=
        ⟨_, (Nat.succ_pred_eq_of_pos (by omega)).symm⟩
      rw [hplaces]
      exact wellFormed_plain (isWhole_cons hd _)
    · exact wellFormed_plain isWhole_zero
    · refine ⟨isWhole_cons hd _, fun negative digits h => ?_⟩
      obtain rfl := (Prod.mk.inj (Option.some.inj h)).2
      exact Digit.ofNat_ne_nil _

/-- A single-precision number is written so that a text can hold it. -/
theorem wellFormed_of_ofSingle? {x : Single} {n : Numeral} (h : ofSingle? x = some n) :
    n.WellFormed := by
  unfold ofSingle? at h
  split at h
  · cases h
  · cases h
  · split at h
    · obtain rfl := Option.some.inj h
      exact wellFormed_plain isWhole_zero
    · obtain rfl := Option.some.inj h
      exact wellFormed_ofDecimal _ Single.exponent_shortest

end Numeral

/-! ### Single values -/

namespace Document

variable {α : Type}

@[simp]
theorem toBool?_bool (value : Bool) : (bool value).toBool? = some value := rfl

@[simp]
theorem toText?_string (value : String) : (string value).toText? = some value := rfl

@[simp]
theorem toWord?_word (n : UInt32) : (word n).toWord? = some n := by
  have hlt : n.toNat < UInt32.size := n.toNat_lt
  simp [word, nat, toWord?, Numeral.toWord?, Numeral.ofNat, Numeral.isInteger, hlt]

theorem wellFormed_word (n : UInt32) : (word n).WellFormed :=
  wellFormed_number (Numeral.wellFormed_ofNat n.toNat)

theorem wellFormed_single (x : Single) : (single x).WellFormed := by
  unfold single
  split
  · next numeral h => exact wellFormed_number (Numeral.wellFormed_of_ofSingle? h)
  · exact wellFormed_null

/-! ### Lists, missing values and maps -/

variable {write : α → Document} {read? : Document → Option α}

theorem mapM_map_of_forall {β γ : Type} {f : β → γ} {g? : γ → Option β} {l : List β}
    (h : ∀ b ∈ l, g? (f b) = some b) : (l.map f).mapM g? = some l := by
  induction l with
  | nil => rfl
  | cons b l ih =>
    have hb := h b List.mem_cons_self
    have hl := ih fun b hmem => h b (List.mem_cons_of_mem _ hmem)
    simp [hb, hl]

theorem toList?_array {items : List α} (h : ∀ a ∈ items, read? (write a) = some a) :
    toList? read? (array (items.map write)) = some items :=
  mapM_map_of_forall h

theorem toNullable?_nullable {a : Option α} (h : ∀ b ∈ a, read? (write b) = some b)
    (hnull : ∀ b, write b ≠ null) : toNullable? read? (nullable write a) = some a := by
  cases a with
  | none => rfl
  | some b =>
    show toNullable? read? (write b) = _
    unfold toNullable?
    split
    · next hwrite => exact absurd hwrite (hnull b)
    · rw [h b rfl]
      rfl

theorem toMap?_map {m : SortedMap α} (h : ∀ entry ∈ m.entries, read? (write entry.2) = some entry.2) :
    toMap? read? (map write m) = some m := by
  have hentries : (m.entries.map fun entry => (some entry.1, write entry.2)).mapM
      (fun member => do some (← member.1, ← read? member.2)) = some m.entries :=
    mapM_map_of_forall fun entry hentry => by simp [h entry hentry]
  simp only [map, record, List.map_map, toMap?]
  refine (congrArg (Option.bind · fun entries => some (SortedMap.ofList entries)) hentries).trans ?_
  rw [Option.bind_some, SortedMap.ofList_entries]

/-! ### Choices -/

/-- A name that only one choice has stands for that choice. -/
theorem toChoice?_string {choices : List α} {name : α → String} (hnodup : (choices.map name).Nodup)
    {a : α} (ha : a ∈ choices) :
    toChoice? (choices.map fun a => (name a, a)) (string (name a)) = some a := by
  show (choices.map fun a => (name a, a)).lookup (name a) = some a
  induction choices with
  | nil => cases ha
  | cons b choices ih =>
    obtain ⟨hb, hchoices⟩ := List.nodup_cons.1 hnodup
    rw [List.map_cons, List.lookup_cons]
    rcases List.mem_cons.1 ha with rfl | ha
    · simp
    · have hne : (name a == name b) = false := by
        simpa using fun heq : name a = name b => hb (heq ▸ List.mem_map_of_mem ha)
      rw [hne]
      exact ih hchoices ha

/-! ### Structures -/

/-- Of members with different keys, a key has its own. -/
theorem filter_key_eq {members : List (String × Document)} (hnodup : (members.map Prod.fst).Nodup)
    {member : String × Document} (h : member ∈ members) :
    (members.map fun (key, d) => (some key, d)).filter (fun m => m.1 = some member.1) =
      [(some member.1, member.2)] := by
  induction members with
  | nil => cases h
  | cons head rest ih =>
    obtain ⟨hhead, hrest⟩ := List.nodup_cons.1 hnodup
    rw [List.map_cons]
    rcases List.mem_cons.1 h with rfl | hmem
    · have hnone : ∀ m ∈ rest.map fun (key, d) => (some key, d),
          ¬ decide (m.1 = some member.1) = true := by
        intro m hm
        obtain ⟨other, hother, rfl⟩ := List.mem_map.1 hm
        simpa using fun heq : other.1 = member.1 => hhead (heq ▸ List.mem_map_of_mem hother)
      rw [List.filter_cons_of_pos (by simp), List.filter_eq_nil_iff.2 hnone]
    · have hne : head.1 ≠ member.1 := fun heq => hhead (heq ▸ List.mem_map_of_mem hmem)
      rw [List.filter_cons_of_neg (by simpa using hne), ih hrest hmem]

/-- A record that writes the fields of a structure in their order is read like the array of what it
writes. -/
theorem toRecord?_record {fields : List (Field α)} {members : List (String × Document)}
    (hnames : members.map Prod.fst = fields.map Field.name)
    (hnodup : (fields.map Field.name).Nodup) (base : α) :
    toRecord? fields base (record members) = ofItems? fields base (members.map Prod.snd) := by
  -- The fields not yet read, with their members, are the end of the record.
  have hread : ∀ (fields : List (Field α)) (rest : List (String × Document)) (a : α),
      rest ⊆ members → rest.map Prod.fst = fields.map Field.name →
      fields.foldlM (Field.ofMembers? (members.map fun (key, d) => (some key, d))) a =
        ofItems? fields a (rest.map Prod.snd) := by
    intro fields
    induction fields with
    | nil =>
      intro rest a _ hrest
      obtain rfl : rest = [] := by simpa using hrest
      rfl
    | cons field fields ih =>
      intro rest a hmem hrest
      cases rest with
      | nil => cases hrest
      | cons member rest =>
        obtain ⟨hname, hrest⟩ := List.cons.inj hrest
        obtain ⟨hmember, hmem⟩ := List.cons_subset.1 hmem
        have hown := filter_key_eq (hnames ▸ hnodup) hmember
        rw [hname] at hown
        rw [List.foldlM_cons, Field.ofMembers?, hown]
        exact Option.bind_congr fun a _ => ih rest a hmem hrest
  have hkeys : (members.map fun (key, d) => (some key, d)).all (fun m => m.1.isSome) := by simp
  show ofMembers? fields base (members.map fun (key, d) => (some key, d)) = _
  rw [ofMembers?, if_pos hkeys]
  exact hread fields members base (List.Subset.refl _) hnames

end Document

end SoftKeyboard
