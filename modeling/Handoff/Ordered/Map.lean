/-!
# Maps in insertion order

A map from strings keeps its entries in the order in which their keys first came. Writing a present
key replaces its value in place. That keys are distinct is part of the type, so the list of entries
determines the map and every lookup has at most one answer.
-/

namespace Handoff

universe u v

/-- A map from strings that remembers the order of its keys. -/
structure OrderedMap (β : Type u) where
  entries : List (String × β)
  nodup : (entries.map Prod.fst).Nodup

namespace OrderedMap

variable {β : Type u} {γ : Type v}

/-- Maps with the same entries are equal. -/
@[ext] theorem ext {m n : OrderedMap β} (h : m.entries = n.entries) : m = n := by
  cases m
  cases n
  simp_all

instance [DecidableEq β] : DecidableEq (OrderedMap β) := fun m n =>
  decidable_of_iff (m.entries = n.entries) ⟨ext, congrArg entries⟩

/-- The map without entries. -/
def empty : OrderedMap β := ⟨[], List.nodup_nil⟩

instance : Inhabited (OrderedMap β) := ⟨empty⟩

/-- The keys in order. -/
def keys (m : OrderedMap β) : List String := m.entries.map Prod.fst

/-- The values in the order of their keys. -/
def values (m : OrderedMap β) : List β := m.entries.map Prod.snd

/-- The value at a key. -/
def get? (m : OrderedMap β) (key : String) : Option β := m.entries.lookup key

/-- Whether a key is present. -/
def contains (m : OrderedMap β) (key : String) : Bool := m.keys.contains key

/-- Whether there are no entries. -/
def isEmpty (m : OrderedMap β) : Bool := m.entries.isEmpty

/-- The number of entries. -/
def size (m : OrderedMap β) : Nat := m.entries.length

/-- Write a key of a list of entries: in place if it is there, at the end if not. -/
def insertEntry (key : String) (value : β) : List (String × β) → List (String × β)
  | [] => [(key, value)]
  | (k, v) :: rest =>
    if k = key then (key, value) :: rest else (k, v) :: insertEntry key value rest

/-- Writing a present key keeps the list of keys. -/
theorem map_fst_insertEntry_of_mem {key : String} (value : β) {l : List (String × β)}
    (h : key ∈ l.map Prod.fst) : (insertEntry key value l).map Prod.fst = l.map Prod.fst := by
  induction l with
  | nil => simp at h
  | cons e rest ih =>
    obtain ⟨k, v⟩ := e
    unfold insertEntry
    split
    · next he => simp [he]
    · next he =>
      simp only [List.map_cons, List.mem_cons] at h
      rcases h with h | h
      · exact absurd h.symm he
      · simp [ih h]

/-- Writing an absent key adds it at the end. -/
theorem insertEntry_of_not_mem {key : String} (value : β) {l : List (String × β)}
    (h : key ∉ l.map Prod.fst) : insertEntry key value l = l ++ [(key, value)] := by
  induction l with
  | nil => rfl
  | cons e rest ih =>
    obtain ⟨k, v⟩ := e
    simp only [List.map_cons, List.mem_cons, not_or] at h
    unfold insertEntry
    rw [if_neg (fun he => h.1 he.symm), ih h.2]
    rfl

/-- Writing a key keeps the keys distinct. -/
theorem nodup_insertEntry (key : String) (value : β) {l : List (String × β)}
    (h : (l.map Prod.fst).Nodup) : ((insertEntry key value l).map Prod.fst).Nodup := by
  by_cases hm : key ∈ l.map Prod.fst
  · rw [map_fst_insertEntry_of_mem value hm]; exact h
  · rw [insertEntry_of_not_mem value hm, List.map_append, List.nodup_append]
    refine ⟨h, by simp, ?_⟩
    intro a ha b hb
    simp only [List.map_cons, List.map_nil, List.mem_singleton] at hb
    subst hb
    exact fun he => hm (he ▸ ha)

/-- Write a key. -/
def insert (m : OrderedMap β) (key : String) (value : β) : OrderedMap β :=
  ⟨insertEntry key value m.entries, nodup_insertEntry key value m.nodup⟩

/-- Write a key unless it is present. -/
def insertIfNew (m : OrderedMap β) (key : String) (value : β) : OrderedMap β :=
  if m.contains key then m else m.insert key value

/-- Write a list of entries from left to right. -/
def insertAll (m : OrderedMap β) (l : List (String × β)) : OrderedMap β :=
  l.foldl (fun m e => m.insert e.1 e.2) m

/-- The map of a list of entries; a later entry replaces the value of an earlier one. -/
def ofList (l : List (String × β)) : OrderedMap β := empty.insertAll l

/-- Keep the entries whose key passes a test. -/
def filterKeys (m : OrderedMap β) (keep : String → Bool) : OrderedMap β where
  entries := m.entries.filter (fun e => keep e.1)
  nodup := m.nodup.sublist ((List.filter_sublist).map Prod.fst)

/-- Change the value at a key, if it is present. -/
def modify (m : OrderedMap β) (key : String) (f : β → β) : OrderedMap β where
  entries := m.entries.map (fun e => if e.1 = key then (e.1, f e.2) else e)
  nodup := by
    have h : (m.entries.map (fun e => if e.1 = key then (e.1, f e.2) else e)).map Prod.fst =
        m.entries.map Prod.fst := by
      rw [List.map_map]
      apply List.map_congr_left
      intro e _
      simp only [Function.comp]
      split <;> rfl
    rw [h]
    exact m.nodup

/-- The empty map has no keys. -/
@[simp] theorem keys_empty : (empty : OrderedMap β).keys = [] := rfl

/-- Keys are distinct. -/
theorem nodup_keys (m : OrderedMap β) : m.keys.Nodup := m.nodup

/-- The keys after writing one. -/
theorem keys_insert (m : OrderedMap β) (key : String) (value : β) :
    (m.insert key value).keys = if key ∈ m.keys then m.keys else m.keys ++ [key] := by
  unfold keys insert
  split
  · next h => exact map_fst_insertEntry_of_mem value h
  · next h =>
    show (insertEntry key value m.entries).map Prod.fst = _
    rw [insertEntry_of_not_mem value h]
    simp

/-- The keys present after writing one. -/
theorem mem_keys_insert {m : OrderedMap β} {key k : String} {value : β} :
    k ∈ (m.insert key value).keys ↔ k = key ∨ k ∈ m.keys := by
  rw [keys_insert]
  split
  · next h => exact ⟨Or.inr, fun hk => hk.elim (fun e => e ▸ h) id⟩
  · simp [or_comm]

private theorem lookup_insertEntry (key k : String) (value : β) (l : List (String × β)) :
    (insertEntry key value l).lookup k = if k = key then some value else l.lookup k := by
  induction l with
  | nil =>
    by_cases h : k = key
    · simp [insertEntry, h]
    · have hb : (k == key) = false := by simpa using h
      simp [insertEntry, List.lookup_cons, h, hb]
  | cons e rest ih =>
    obtain ⟨k', v⟩ := e
    unfold insertEntry
    split
    · next he =>
      subst he
      by_cases h : k = k'
      · subst h; simp
      · have hb : (k == k') = false := by simpa using h
        simp [List.lookup_cons, h, hb]
    · next he =>
      by_cases h : k = k'
      · subst h
        simp [he]
      · have hb : (k == k') = false := by simpa using h
        simp only [List.lookup_cons, hb, ih]

/-- Looking up after writing a key. -/
theorem get?_insert (m : OrderedMap β) (key k : String) (value : β) :
    (m.insert key value).get? k = if k = key then some value else m.get? k :=
  lookup_insertEntry key k value m.entries

/-- Nothing is found in the empty map. -/
@[simp] theorem get?_empty (k : String) : (empty : OrderedMap β).get? k = none := rfl

end OrderedMap
end Handoff
