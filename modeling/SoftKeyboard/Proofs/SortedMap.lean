import Mathlib.Data.List.Basic
import Mathlib.Data.List.Nodup
import SoftKeyboard.SortedMap

/-!
# Lookup in sorted maps

* A map is made again from its entries (`SortedMap.ofList_entries`).
* A map put over another one decides where it has a value (`SortedMap.get?_override`).
* A map is determined by the values of its keys (`SortedMap.ext_get?`).
* The first key that has a property is the least (`SortedMap.find?_keys`).
-/

namespace SoftKeyboard.SortedMap

variable {α : Type}

@[ext]
theorem ext {m n : SortedMap α} (h : m.entries = n.entries) : m = n := by
  cases m
  cases n
  cases h
  rfl

/-! ### Making a map again -/

theorem insertEntry_of_forall_lt {key : String} {value : α} {entries : List (String × α)}
    (h : ∀ entry ∈ entries, entry.1 < key) :
    insertEntry key value entries = entries ++ [(key, value)] := by
  induction entries with
  | nil => rfl
  | cons head rest ih =>
    have hhead : head.1 < key := h head List.mem_cons_self
    have hnlt : ¬ key < head.1 := String.lt_asymm hhead
    have hne : ¬ key = head.1 := fun heq => String.lt_irrefl _ (heq ▸ hhead)
    rw [insertEntry, if_neg hnlt, if_neg hne, List.cons_append,
      ih fun entry hentry => h entry (List.mem_cons_of_mem _ hentry)]

/-- Entries that come after those of a map are put behind them. -/
theorem entries_insertAll {m : SortedMap α} {entries : List (String × α)}
    (h : (m.entries ++ entries).Pairwise fun a b => a.1 < b.1) :
    (m.insertAll entries).entries = m.entries ++ entries := by
  induction entries generalizing m with
  | nil => exact (List.append_nil _).symm
  | cons entry entries ih =>
    have hlast : (m.insert entry.1 entry.2).entries = m.entries ++ [entry] :=
      insertEntry_of_forall_lt fun other hother =>
        (List.pairwise_append.1 h).2.2 other hother entry List.mem_cons_self
    have hsplit : m.entries ++ entry :: entries =
        (m.insert entry.1 entry.2).entries ++ entries := by
      rw [hlast, List.append_assoc, List.singleton_append]
    rw [hsplit] at h ⊢
    exact ih h

/-- **A map is made again from its entries.** -/
theorem ofList_entries (m : SortedMap α) : ofList m.entries = m :=
  ext (entries_insertAll (m := empty) m.sorted)

/-! ### One map over another -/

theorem lookup_eq_none_of_forall_ne {key : String} {entries : List (String × α)}
    (h : ∀ entry ∈ entries, entry.1 ≠ key) : entries.lookup key = none := by
  induction entries with
  | nil => rfl
  | cons head rest ih =>
    have hhead : (key == head.1) = false := by simpa using (h head List.mem_cons_self).symm
    rw [List.lookup_cons, hhead]
    exact ih fun entry hentry => h entry (List.mem_cons_of_mem _ hentry)

theorem get?_insertAll (m : SortedMap α) {entries : List (String × α)}
    (h : entries.Pairwise fun a b => a.1 < b.1) (key : String) :
    (m.insertAll entries).get? key = (entries.lookup key).or (m.get? key) := by
  induction entries generalizing m with
  | nil => rfl
  | cons entry entries ih =>
    obtain ⟨hentry, hentries⟩ := List.pairwise_cons.1 h
    show ((m.insert entry.1 entry.2).insertAll entries).get? key = _
    rw [ih _ hentries, get?_insert, List.lookup_cons]
    by_cases hkey : key = entry.1
    · subst hkey
      have hnone : entries.lookup entry.1 = none :=
        lookup_eq_none_of_forall_ne fun other hother heq =>
          String.lt_irrefl _ (heq ▸ hentry other hother)
      simp [hnone]
    · have hne : (key == entry.1) = false := by simpa using hkey
      simp [hkey, hne]

/-- **A map put over another one decides where it has a value**, the other one elsewhere. -/
theorem get?_override (m overrides : SortedMap α) (key : String) :
    (m.override overrides).get? key = (overrides.get? key).or (m.get? key) :=
  get?_insertAll m overrides.sorted key

/-! ### Entries and lookup -/

theorem get?_eq_some_iff {m : SortedMap α} {key : String} {value : α} :
    m.get? key = some value ↔ (key, value) ∈ m.entries := by
  obtain ⟨entries, hsorted⟩ := m
  show entries.lookup key = some value ↔ _
  induction entries with
  | nil => simp
  | cons head rest ih =>
    obtain ⟨hhead, hrest⟩ := List.pairwise_cons.1 hsorted
    rw [List.lookup_cons, List.mem_cons]
    by_cases hkey : key = head.1
    · have hnot : (key, value) ∉ rest := fun hmem => String.lt_irrefl _ (hkey ▸ hhead _ hmem)
      rw [hkey, beq_self_eq_true]
      constructor
      · intro h
        exact .inl (Prod.ext rfl (Option.some.inj h).symm)
      · rintro (h | hmem)
        · exact congrArg some (congrArg Prod.snd h).symm
        · exact absurd (hkey ▸ hmem) hnot
    · have hne : (key == head.1) = false := by simpa using hkey
      rw [hne, ih hrest]
      exact ⟨.inr, fun h => h.resolve_left fun heq => hkey (congrArg Prod.fst heq)⟩

theorem mem_keys_iff {m : SortedMap α} {key : String} :
    key ∈ m.keys ↔ ∃ value, m.get? key = some value := by
  simp [keys, get?_eq_some_iff]

theorem nodup_keys (m : SortedMap α) : m.keys.Nodup := by
  refine List.pairwise_map.2 (m.sorted.imp ?_)
  intro a b hlt heq
  exact String.lt_irrefl _ (heq ▸ hlt)

/-- Maps in which every key has the same value are equal. -/
theorem ext_get? {m n : SortedMap α} (h : ∀ key, m.get? key = n.get? key) : m = n := by
  have hmem : ∀ entry, entry ∈ m.entries ↔ entry ∈ n.entries := fun (key, value) => by
    rw [← get?_eq_some_iff, ← get?_eq_some_iff, h key]
  have hperm := (List.perm_ext_iff_of_nodup (.of_map _ m.nodup_keys) (.of_map _ n.nodup_keys)).2
    hmem
  exact ext (hperm.eq_of_pairwise
    (fun _ _ _ _ hab hba => absurd hba (String.lt_asymm hab)) m.sorted n.sorted)

/-! ### Keys -/

theorem pairwise_keys (m : SortedMap α) : m.keys.Pairwise (· < ·) :=
  List.pairwise_map.2 m.sorted

/-- The first key with a property is the least one. -/
theorem find?_keys {m : SortedMap α} {p : String → Bool} {key : String}
    (h : m.keys.find? p = some key) :
    key ∈ m.keys ∧ p key ∧ ∀ other ∈ m.keys, p other → key ≤ other := by
  obtain ⟨hp, before, after, hkeys, hbefore⟩ := List.find?_eq_some_iff_append.1 h
  refine ⟨hkeys ▸ by simp, hp, fun other hother hpother => ?_⟩
  have hsorted := m.pairwise_keys
  rw [hkeys] at hother hsorted
  rcases List.mem_append.1 hother with hother | hother
  · have := hbefore other hother
    simp [hpother] at this
  · rcases List.mem_cons.1 hother with rfl | hother
    · exact String.le_refl _
    · have hafter := (List.pairwise_cons.1 (List.pairwise_append.1 hsorted).2.1).1
      exact String.not_lt.1 (String.lt_asymm (hafter other hother))

end SoftKeyboard.SortedMap
