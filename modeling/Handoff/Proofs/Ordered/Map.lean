import Handoff.Ordered.Map

/-!
# Lookups in maps in insertion order

What the operations on ordered maps do to lookups, and that writing the entries of a map one after the
other into an empty one gives the map back.
-/

namespace Handoff.OrderedMap

universe u v w

variable {β : Type u}

private theorem insertEntry_of_fresh {m : OrderedMap β} {key : String} (value : β)
    (h : key ∉ m.keys) : (m.insert key value).entries = m.entries ++ [(key, value)] :=
  insertEntry_of_not_mem value h

/-- Writing entries with fresh, distinct keys puts them at the end. -/
theorem entries_insertAll {m : OrderedMap β} {l : List (String × β)}
    (h : ((m.entries ++ l).map Prod.fst).Nodup) : (m.insertAll l).entries = m.entries ++ l := by
  induction l generalizing m with
  | nil => simp [insertAll]
  | cons e rest ih =>
    have fresh : e.1 ∉ m.keys := by
      rw [List.map_append, List.nodup_append] at h
      intro he
      exact h.2.2 e.1 he e.1 (by simp) rfl
    have step : (m.insert e.1 e.2).entries = m.entries ++ [e] := insertEntry_of_fresh e.2 fresh
    have hn : (((m.insert e.1 e.2).entries ++ rest).map Prod.fst).Nodup := by
      rw [step, List.append_assoc]
      exact h
    show ((m.insert e.1 e.2).insertAll rest).entries = _
    rw [ih hn, step, List.append_assoc]
    rfl

/-- A map is the map of its entries. -/
theorem ofList_entries (m : OrderedMap β) : ofList m.entries = m := by
  apply ext
  have h : (((empty : OrderedMap β).entries ++ m.entries).map Prod.fst).Nodup := m.nodup
  rw [ofList, entries_insertAll h]
  rfl

/-- A map has entries unless it is the empty map. -/
@[simp] theorem isEmpty_eq_false_iff {m : OrderedMap β} : m.isEmpty = false ↔ m ≠ .empty := by
  rw [isEmpty, List.isEmpty_eq_false_iff]
  exact not_congr ⟨fun h => ext h, fun h => h ▸ rfl⟩

/-- What is found at a key is an entry. -/
theorem mem_of_get? {m : OrderedMap β} {key : String} {value : β} (h : m.get? key = some value) :
    (key, value) ∈ m.entries := by
  obtain ⟨before, after, he, -⟩ := List.lookup_eq_some_iff.1 h
  rw [he]
  simp

/-- A key at which something is found is present. -/
theorem mem_keys_of_get? {m : OrderedMap β} {key : String} {value : β}
    (h : m.get? key = some value) : key ∈ m.keys :=
  List.mem_map_of_mem (mem_of_get? h)

/-- Every entry is found at its key. -/
theorem get?_of_mem {m : OrderedMap β} {key : String} {value : β} (h : (key, value) ∈ m.entries) :
    m.get? key = some value := by
  obtain ⟨before, after, he⟩ := List.append_of_mem h
  refine List.lookup_eq_some_iff.2 ⟨before, after, he, ?_⟩
  intro e hmem
  have distinct := m.nodup
  rw [he, List.map_append, List.nodup_append] at distinct
  have hne := distinct.2.2 e.1 (List.mem_map_of_mem hmem) key (by simp)
  simpa using Ne.symm hne

/-- Something is found at every key that is present. -/
theorem exists_of_mem_keys {m : OrderedMap β} {key : String} (h : key ∈ m.keys) :
    ∃ value, m.get? key = some value := by
  obtain ⟨e, he, rfl⟩ := List.mem_map.1 h
  exact ⟨e.2, get?_of_mem he⟩

/-- Keys are present exactly where something is found. -/
theorem contains_eq_isSome (m : OrderedMap β) (key : String) :
    m.contains key = (m.get? key).isSome := by
  rw [Bool.eq_iff_iff]
  constructor
  · intro h
    obtain ⟨value, hv⟩ := exists_of_mem_keys (by simpa [contains] using h)
    rw [hv]
    rfl
  · intro h
    obtain ⟨value, hv⟩ := Option.isSome_iff_exists.1 h
    simpa [contains] using mem_keys_of_get? hv

/-- Looking up after keys have been filtered. -/
theorem get?_filterKeys (m : OrderedMap β) (keep : String → Bool) (key : String) :
    (m.filterKeys keep).get? key = if keep key then m.get? key else none := by
  show (m.entries.filter fun e => keep e.1).lookup key = _
  unfold get?
  induction m.entries with
  | nil => simp
  | cons e rest ih =>
    obtain ⟨k, v⟩ := e
    by_cases hk : key = k
    · subst hk
      by_cases hkeep : keep key = true
      · simp [hkeep]
      · simp only [hkeep] at ih ⊢
        rw [List.filter_cons_of_neg (by simpa using hkeep)]
        exact ih
    · have hb : (key == k) = false := by simpa using hk
      rw [List.lookup_cons, hb, ← ih]
      by_cases hkeep : keep k = true
      · rw [List.filter_cons_of_pos (by exact hkeep), List.lookup_cons, hb]
      · rw [List.filter_cons_of_neg (by exact hkeep)]

/-- Looking up after writing a list: the last entry for the key, or what was there before. -/
theorem get?_insertAll (m : OrderedMap β) (l : List (String × β)) (key : String) :
    (m.insertAll l).get? key = (l.reverse.lookup key).or (m.get? key) := by
  induction l generalizing m with
  | nil => rfl
  | cons e rest ih =>
    show ((m.insert e.1 e.2).insertAll rest).get? key = _
    rw [ih, get?_insert, List.reverse_cons, List.lookup_append]
    by_cases hk : key = e.1
    · have hb : (key == e.1) = true := by simpa using hk
      rw [if_pos hk, List.lookup_cons, hb, Option.or_assoc]
      rfl
    · have hb : (key == e.1) = false := by simpa using hk
      rw [if_neg hk, List.lookup_cons, hb, Option.or_assoc]
      rfl

/-- The map of a list gives a key the value that the end of the list gives it. -/
theorem get?_ofList_append {before last : List (String × β)} {key : String} {value : β}
    (h : (key, value) ∈ last) (only : ∀ e ∈ last, e.1 = key → e.2 = value) :
    (ofList (before ++ last)).get? key = some value := by
  have found : last.reverse.lookup key = some value := by
    cases found : last.reverse.lookup key with
    | none =>
      exact absurd (List.lookup_eq_none_iff.1 found (key, value) (List.mem_reverse.2 h)) (by simp)
    | some other =>
      obtain ⟨_, _, split, -⟩ := List.lookup_eq_some_iff.1 found
      have listed : (key, other) ∈ last := by
        rw [← List.mem_reverse, split]
        simp
      rw [← only (key, other) listed rfl]
  rw [ofList, get?_insertAll, List.reverse_append, List.lookup_append, found]
  rfl

private theorem mem_insertEntry {key : String} {value : β} {l : List (String × β)}
    {e : String × β} (h : e ∈ insertEntry key value l) : e = (key, value) ∨ e ∈ l := by
  induction l with
  | nil => simpa [insertEntry] using h
  | cons first rest ih =>
    obtain ⟨k, v⟩ := first
    unfold insertEntry at h
    split at h
    · rcases List.mem_cons.1 h with h | h
      · exact Or.inl h
      · exact Or.inr (List.mem_cons_of_mem _ h)
    · rcases List.mem_cons.1 h with h | h
      · exact Or.inr (by rw [h]; exact List.mem_cons_self)
      · rcases ih h with h | h
        · exact Or.inl h
        · exact Or.inr (List.mem_cons_of_mem _ h)

/-- The entries after writing a key are the written one and entries from before. -/
theorem mem_entries_insert {m : OrderedMap β} {key : String} {value : β} {e : String × β}
    (h : e ∈ (m.insert key value).entries) : e = (key, value) ∨ e ∈ m.entries :=
  mem_insertEntry h

/-- The entries after writing a list are written ones and entries from before. -/
theorem mem_entries_insertAll {m : OrderedMap β} {l : List (String × β)} {e : String × β}
    (h : e ∈ (m.insertAll l).entries) : e ∈ l ∨ e ∈ m.entries := by
  induction l generalizing m with
  | nil => exact Or.inr h
  | cons first rest ih =>
    rcases ih (m := m.insert first.1 first.2) h with h | h
    · exact Or.inl (List.mem_cons_of_mem _ h)
    · rcases mem_entries_insert h with h | h
      · exact Or.inl (by rw [h]; exact List.mem_cons_self)
      · exact Or.inr h

/-- The entries of the map of a list come from the list. -/
theorem mem_entries_ofList {l : List (String × β)} {e : String × β}
    (h : e ∈ (ofList l).entries) : e ∈ l := by
  rcases mem_entries_insertAll h with h | h
  · exact h
  · cases h

/-- The keys after writing a list are written ones and keys from before. -/
theorem mem_keys_insertAll {m : OrderedMap β} {l : List (String × β)} {key : String} :
    key ∈ (m.insertAll l).keys ↔ key ∈ l.map Prod.fst ∨ key ∈ m.keys := by
  induction l generalizing m with
  | nil => simp [insertAll]
  | cons e rest ih =>
    show key ∈ ((m.insert e.1 e.2).insertAll rest).keys ↔ _
    rw [ih, mem_keys_insert, List.map_cons, List.mem_cons, or_assoc, or_left_comm]

/-- The keys of the map of a list are those of the list. -/
theorem mem_keys_ofList {l : List (String × β)} {key : String} :
    key ∈ (ofList l).keys ↔ key ∈ l.map Prod.fst := by
  rw [ofList, mem_keys_insertAll]
  simp

/-- The map of a list with distinct keys has its entries. -/
theorem entries_ofList {l : List (String × β)} (h : (l.map Prod.fst).Nodup) :
    (ofList l).entries = l :=
  entries_insertAll h

/-- The entries of a map are what is found. -/
theorem mem_entries_iff {m : OrderedMap β} {key : String} {value : β} :
    (key, value) ∈ m.entries ↔ m.get? key = some value :=
  ⟨get?_of_mem, mem_of_get?⟩

/-- A key is absent if nothing is found. -/
theorem get?_eq_none_iff {m : OrderedMap β} {key : String} :
    m.get? key = none ↔ m.contains key = false := by
  rw [contains_eq_isSome]
  cases m.get? key <;> simp

/-- Nothing is found at a key that no entry has. -/
theorem lookup_eq_none {l : List (String × β)} {key : String} (h : key ∉ l.map Prod.fst) :
    l.lookup key = none := by
  rw [List.lookup_eq_none_iff]
  intro e he
  have ne : key ≠ e.1 := fun hk => h (hk ▸ List.mem_map_of_mem he)
  simpa using ne

/-- A fold over entries with distinct keys, seen through an observation that only the entry at one key
changes, depends on the value at this key. -/
theorem observe_foldl {α : Type v} {γ : Type w} (observe : α → γ) (step : α → String × β → α)
    (key : String) (change : β → γ → γ) {l : List (String × β)}
    (h : ∀ a, ∀ e ∈ l, observe (step a e) = if key = e.1 then change e.2 (observe a) else observe a)
    (distinct : (l.map Prod.fst).Nodup) (a : α) :
    observe (l.foldl step a) = (l.lookup key).elim (observe a) (change · (observe a)) := by
  induction l generalizing a with
  | nil => rfl
  | cons e rest ih =>
    rw [List.map_cons, List.nodup_cons] at distinct
    rw [List.foldl_cons, ih (fun a e' he' => h a e' (List.mem_cons_of_mem _ he')) distinct.2,
      h _ _ List.mem_cons_self, List.lookup_cons]
    by_cases he : key = e.1
    · -- The key comes once, so no later entry has it.
      have later : rest.lookup key = none := lookup_eq_none (he ▸ distinct.1)
      have hb : (key == e.1) = true := by simpa using he
      rw [later, hb, if_pos he]
      rfl
    · have hb : (key == e.1) = false := by simpa using he
      rw [hb, if_neg he]

end Handoff.OrderedMap
