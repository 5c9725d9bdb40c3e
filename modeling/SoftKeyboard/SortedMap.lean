/-!
# Maps sorted by their keys

A `SortedMap α` maps texts to values and lists its entries in strictly increasing order of the
keys, that is in the order of their code points and hence of their UTF-8 bytes.  Because the order
is part of the type, two maps are equal when they have the same entries.
-/

namespace SoftKeyboard

/-- A map from texts to values, its entries strictly increasing in their keys. -/
structure SortedMap (α : Type) where
  entries : List (String × α)
  sorted : entries.Pairwise (fun a b => a.1 < b.1) := by simp
  deriving DecidableEq, Repr

namespace SortedMap

variable {α β : Type}

/-! ### Insertion into a sorted list -/

/-- Puts an entry in its place in a sorted list, in place of any entry of the same key. -/
def insertEntry (key : String) (value : α) : List (String × α) → List (String × α)
  | [] => [(key, value)]
  | entry :: rest =>
    if key < entry.1 then (key, value) :: entry :: rest
    else if key = entry.1 then (key, value) :: rest
    else entry :: insertEntry key value rest

theorem mem_insertEntry {key : String} {value : α} {entry : String × α}
    {entries : List (String × α)} (h : entry ∈ insertEntry key value entries) :
    entry = (key, value) ∨ entry ∈ entries := by
  induction entries with
  | nil => simpa [insertEntry] using h
  | cons head rest ih =>
    unfold insertEntry at h
    split at h
    · simpa using h
    · split at h
      · rcases List.mem_cons.1 h with h | h
        · exact .inl h
        · exact .inr (List.mem_cons_of_mem _ h)
      · rcases List.mem_cons.1 h with h | h
        · exact .inr (h ▸ List.mem_cons_self)
        · exact (ih h).imp id (List.mem_cons_of_mem _)

theorem pairwise_insertEntry (key : String) (value : α) {entries : List (String × α)}
    (h : entries.Pairwise (fun a b => a.1 < b.1)) :
    (insertEntry key value entries).Pairwise (fun a b => a.1 < b.1) := by
  induction entries with
  | nil => simp [insertEntry]
  | cons head rest ih =>
    obtain ⟨hhead, hrest⟩ := List.pairwise_cons.1 h
    unfold insertEntry
    split
    · next hlt =>
      refine List.pairwise_cons.2 ⟨fun b hb => ?_, h⟩
      rcases List.mem_cons.1 hb with rfl | hb
      · exact hlt
      · exact String.lt_trans hlt (hhead b hb)
    · next hnlt =>
      split
      · next heq => exact List.pairwise_cons.2 ⟨fun b hb => heq ▸ hhead b hb, hrest⟩
      · next hne =>
        refine List.pairwise_cons.2 ⟨fun b hb => ?_, ih hrest⟩
        rcases mem_insertEntry hb with rfl | hb
        · refine Decidable.byContradiction fun hge => hne ?_
          exact String.le_antisymm (String.not_lt.1 hge) (String.not_lt.1 hnlt)
        · exact hhead b hb

/-! ### Operations -/

/-- The map without entries. -/
def empty : SortedMap α := ⟨[], .nil⟩

instance : Inhabited (SortedMap α) := ⟨empty⟩

/-- The map with `key` mapped to `value`, whatever it was mapped to before. -/
def insert (m : SortedMap α) (key : String) (value : α) : SortedMap α :=
  ⟨insertEntry key value m.entries, pairwise_insertEntry key value m.sorted⟩

/-- The value of a key. -/
def get? (m : SortedMap α) (key : String) : Option α :=
  m.entries.lookup key

/-- Whether the key has a value. -/
def contains (m : SortedMap α) (key : String) : Bool := (m.get? key).isSome

/-- The keys in increasing order. -/
def keys (m : SortedMap α) : List String := m.entries.map Prod.fst

/-- The number of entries. -/
def size (m : SortedMap α) : Nat := m.entries.length

/-- Whether there are no entries. -/
def isEmpty (m : SortedMap α) : Bool := m.entries.isEmpty

/-- The map with the given entries inserted one after the other. -/
def insertAll (m : SortedMap α) (entries : List (String × α)) : SortedMap α :=
  entries.foldl (fun m entry => m.insert entry.1 entry.2) m

/-- The map of a list of entries, of which the last counts where a key occurs twice. -/
def ofList (entries : List (String × α)) : SortedMap α := empty.insertAll entries

/-- The first map with the entries of the second put over it. -/
def override (m overrides : SortedMap α) : SortedMap α := m.insertAll overrides.entries

/-! ### Lookup after insertion -/

theorem lookup_insertEntry (key other : String) (value : α) (entries : List (String × α)) :
    (insertEntry key value entries).lookup other =
      if other = key then some value else entries.lookup other := by
  induction entries with
  | nil =>
    by_cases h : other = key
    · simp [insertEntry, h]
    · have : (other == key) = false := by simpa using h
      simp [insertEntry, List.lookup_cons, h, this]
  | cons head rest ih =>
    obtain ⟨headKey, headValue⟩ := head
    unfold insertEntry
    split
    · by_cases h : other = key
      · simp [h]
      · have : (other == key) = false := by simpa using h
        simp [List.lookup_cons, h, this]
    · split
      · next heq =>
        subst heq
        by_cases h : other = key
        · simp [h]
        · have : (other == key) = false := by simpa using h
          simp [List.lookup_cons, h, this]
      · next hne =>
        by_cases hhead : other = headKey
        · subst hhead
          have : ¬ other = key := fun h => hne h.symm
          simp [this]
        · have : (other == headKey) = false := by simpa using hhead
          simp [List.lookup_cons, this, ih]

@[simp]
theorem get?_empty (key : String) : (empty : SortedMap α).get? key = none := rfl

/-- An inserted key has its new value, every other key the value it had. -/
@[simp]
theorem get?_insert (m : SortedMap α) (key other : String) (value : α) :
    (m.insert key value).get? other = if other = key then some value else m.get? other :=
  lookup_insertEntry key other value m.entries

end SortedMap

end SoftKeyboard
