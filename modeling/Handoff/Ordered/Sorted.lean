/-!
# Maps sorted by key

A sorted map keeps its entries in ascending order of their keys, by code point. The order is part of
the type, so equal contents are equal maps.
-/

namespace Handoff

universe u

/-- A map from strings whose entries ascend by key. -/
structure SortedMap (β : Type u) where
  entries : List (String × β)
  sorted : entries.Pairwise (fun a b => a.1 < b.1)

namespace SortedMap

variable {β : Type u}

/-- Maps with the same entries are equal. -/
@[ext] theorem ext {m n : SortedMap β} (h : m.entries = n.entries) : m = n := by
  cases m
  cases n
  simp_all

instance [DecidableEq β] : DecidableEq (SortedMap β) := fun m n =>
  decidable_of_iff (m.entries = n.entries) ⟨ext, congrArg entries⟩

/-- The map without entries. -/
def empty : SortedMap β := ⟨[], List.Pairwise.nil⟩

instance : Inhabited (SortedMap β) := ⟨empty⟩

/-- The keys in ascending order. -/
def keys (m : SortedMap β) : List String := m.entries.map Prod.fst

/-- The values in the order of their keys. -/
def values (m : SortedMap β) : List β := m.entries.map Prod.snd

/-- The value at a key. -/
def get? (m : SortedMap β) (key : String) : Option β := m.entries.lookup key

/-- Whether there are no entries. -/
def isEmpty (m : SortedMap β) : Bool := m.entries.isEmpty

/-- The number of entries. -/
def size (m : SortedMap β) : Nat := m.entries.length

/-- Write a key of a sorted list of entries. -/
def insertEntry (key : String) (value : β) : List (String × β) → List (String × β)
  | [] => [(key, value)]
  | (k, v) :: rest =>
    if key < k then (key, value) :: (k, v) :: rest
    else if k = key then (key, value) :: rest
    else (k, v) :: insertEntry key value rest

/-- The keys after writing one. -/
theorem mem_map_insertEntry {key k : String} {value : β} {l : List (String × β)} :
    k ∈ (insertEntry key value l).map Prod.fst ↔ k = key ∨ k ∈ l.map Prod.fst := by
  induction l with
  | nil => simp [insertEntry]
  | cons e rest ih =>
    obtain ⟨k', v⟩ := e
    unfold insertEntry
    split
    · simp
    · split
      · next he =>
        subst he
        simp
      · rw [List.map_cons, List.mem_cons, ih, List.map_cons, List.mem_cons]
        constructor
        · rintro (h | h | h)
          · exact Or.inr (Or.inl h)
          · exact Or.inl h
          · exact Or.inr (Or.inr h)
        · rintro (h | h | h)
          · exact Or.inr (Or.inl h)
          · exact Or.inl h
          · exact Or.inr (Or.inr h)

/-- Writing a key keeps the order. -/
theorem sorted_insertEntry (key : String) (value : β) {l : List (String × β)}
    (h : l.Pairwise (fun a b => a.1 < b.1)) :
    (insertEntry key value l).Pairwise (fun a b => a.1 < b.1) := by
  induction l with
  | nil => simp [insertEntry]
  | cons e rest ih =>
    obtain ⟨k, v⟩ := e
    rw [List.pairwise_cons] at h
    unfold insertEntry
    split
    · next hlt =>
      rw [List.pairwise_cons]
      refine ⟨?_, List.pairwise_cons.2 h⟩
      intro b hb
      rcases List.mem_cons.1 hb with rfl | hb
      · exact hlt
      · exact String.lt_trans hlt (h.1 b hb)
    · next hnlt =>
      split
      · next he =>
        subst he
        rw [List.pairwise_cons]
        exact ⟨h.1, h.2⟩
      · next hne =>
        rw [List.pairwise_cons]
        refine ⟨?_, ih h.2⟩
        intro b hb
        have hk : b.1 ∈ (insertEntry key value rest).map Prod.fst := List.mem_map_of_mem hb
        rcases mem_map_insertEntry.1 hk with hb' | hb'
        · rw [hb']
          exact Std.lt_of_le_of_ne hnlt hne
        · obtain ⟨c, hc, hcb⟩ := List.mem_map.1 hb'
          exact hcb ▸ h.1 c hc

/-- Write a key. -/
def insert (m : SortedMap β) (key : String) (value : β) : SortedMap β :=
  ⟨insertEntry key value m.entries, sorted_insertEntry key value m.sorted⟩

/-- The map of a list of entries; a later entry replaces the value of an earlier one. -/
def ofList (l : List (String × β)) : SortedMap β :=
  l.foldl (fun m e => m.insert e.1 e.2) empty

/-- The keys present after writing one. -/
theorem mem_keys_insert {m : SortedMap β} {key k : String} {value : β} :
    k ∈ (m.insert key value).keys ↔ k = key ∨ k ∈ m.keys :=
  mem_map_insertEntry

private theorem lookup_insertEntry_sorted (key k : String) (value : β) (l : List (String × β)) :
    (insertEntry key value l).lookup k = if k = key then some value else l.lookup k := by
  induction l with
  | nil =>
    by_cases h : k = key
    · simp [insertEntry, h]
    · have hb : (k == key) = false := by simpa using h
      simp [insertEntry, List.lookup_cons, h, hb]
  | cons e rest ih =>
    obtain ⟨k', v⟩ := e
    unfold insertEntry
    split
    · by_cases h : k = key
      · simp [h]
      · have hb : (k == key) = false := by simpa using h
        simp [List.lookup_cons, h, hb]
    · split
      · next he =>
        subst he
        by_cases h : k = k'
        · subst h; simp
        · have hb : (k == k') = false := by simpa using h
          simp [List.lookup_cons, h, hb]
      · next he =>
        by_cases h : k = k'
        · subst h
          simp [he]
        · have hb : (k == k') = false := by simpa using h
          simp only [List.lookup_cons, hb, ih]

/-- Looking up after writing a key. -/
theorem get?_insert (m : SortedMap β) (key k : String) (value : β) :
    (m.insert key value).get? k = if k = key then some value else m.get? k :=
  lookup_insertEntry_sorted key k value m.entries

end SortedMap
end Handoff
