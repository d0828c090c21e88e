import Handoff.Ordered.Sorted

/-!
# Lookups in sorted maps

A sorted map has each of its keys once and finds the entry of each. Of a list of entries it finds the last
one for a key. Entries that come in ascending order are written one after the other; so the entries of a
sorted map give the map back.
-/

namespace Handoff.SortedMap

universe u

variable {β : Type u}

/-- A sorted map has entries unless it is the empty map. -/
@[simp] theorem isEmpty_eq_false_iff {m : SortedMap β} : m.isEmpty = false ↔ m ≠ .empty := by
  rw [isEmpty, List.isEmpty_eq_false_iff]
  exact not_congr ⟨fun h => ext h, fun h => h ▸ rfl⟩

private theorem insertEntry_of_above {key : String} (value : β) {l : List (String × β)}
    (above : ∀ e ∈ l, e.1 < key) : insertEntry key value l = l ++ [(key, value)] := by
  induction l with
  | nil => rfl
  | cons e rest ih =>
    obtain ⟨k, v⟩ := e
    have hk : k < key := above (k, v) List.mem_cons_self
    have hne : k ≠ key := fun h => String.lt_irrefl key (h ▸ hk)
    have hnot : ¬ key < k := fun h => String.lt_irrefl key (String.lt_trans h hk)
    rw [insertEntry, if_neg hnot, if_neg hne, ih fun e he => above e (List.mem_cons_of_mem _ he)]
    rfl

/-- A sorted map is the map of its entries. -/
theorem ofList_entries (m : SortedMap β) : ofList m.entries = m := by
  have build (start : SortedMap β) (l : List (String × β))
      (sorted : (start.entries ++ l).Pairwise fun a b => a.1 < b.1) :
      (l.foldl (fun m e => m.insert e.1 e.2) start).entries = start.entries ++ l := by
    induction l generalizing start with
    | nil => simp
    | cons e rest ih =>
      have above : ∀ b ∈ start.entries, b.1 < e.1 := fun b hb =>
        (List.pairwise_append.1 sorted).2.2 b hb e List.mem_cons_self
      have step : (start.insert e.1 e.2).entries = start.entries ++ [e] :=
        insertEntry_of_above e.2 above
      rw [List.foldl_cons, ih, step, List.append_assoc]
      · rfl
      · rw [step, List.append_assoc]
        exact sorted
  apply ext
  have sorted : ((empty : SortedMap β).entries ++ m.entries).Pairwise fun a b => a.1 < b.1 := m.sorted
  rw [ofList, build empty m.entries sorted]
  rfl

/-! ## Lookups -/

/-- Keys are distinct. -/
theorem nodup_keys (m : SortedMap β) : m.keys.Nodup := by
  rw [keys, List.Nodup, List.pairwise_map]
  refine m.sorted.imp fun {a b} hlt (same : a.1 = b.1) => ?_
  exact String.lt_irrefl b.1 (same ▸ hlt)

/-- There are as many entries as keys. -/
theorem length_keys (m : SortedMap β) : m.keys.length = m.size := List.length_map ..

/-- The entries are what is found. -/
theorem mem_entries_iff {m : SortedMap β} {key : String} {value : β} :
    (key, value) ∈ m.entries ↔ m.get? key = some value := by
  constructor
  · intro h
    obtain ⟨before, after, split⟩ := List.append_of_mem h
    refine List.lookup_eq_some_iff.2 ⟨before, after, split, fun e he => ?_⟩
    have sorted := m.sorted
    rw [split, List.pairwise_append] at sorted
    have hlt : e.1 < key := sorted.2.2 e he _ List.mem_cons_self
    have hne : key ≠ e.1 := fun same => String.lt_irrefl key (same ▸ hlt)
    simpa using hne
  · intro h
    obtain ⟨before, after, split, -⟩ := List.lookup_eq_some_iff.1 h
    rw [split]
    simp

/-- A key is present if something is found. -/
theorem mem_keys_iff {m : SortedMap β} {key : String} : key ∈ m.keys ↔ (m.get? key).isSome = true := by
  rw [Option.isSome_iff_exists, keys, List.mem_map]
  constructor
  · rintro ⟨⟨k, value⟩, h, rfl⟩
    exact ⟨value, mem_entries_iff.1 h⟩
  · rintro ⟨value, h⟩
    exact ⟨(key, value), mem_entries_iff.2 h, rfl⟩

/-- Of a list the last entry for a key is found. -/
theorem get?_ofList (l : List (String × β)) (key : String) :
    (ofList l).get? key = l.reverse.lookup key := by
  have build (start : SortedMap β) :
      (l.foldl (fun m e => m.insert e.1 e.2) start).get? key =
        (l.reverse.lookup key).or (start.get? key) := by
    induction l generalizing start with
    | nil => rfl
    | cons e rest ih =>
      rw [List.foldl_cons, ih, get?_insert, List.reverse_cons, List.lookup_append, Option.or_assoc]
      congr 1
      by_cases hk : key = e.1
      · rw [if_pos hk, List.lookup_cons, beq_iff_eq.2 hk]
        rfl
      · rw [if_neg hk, List.lookup_cons, beq_eq_false_iff_ne.2 hk]
        rfl
  rw [ofList, build]
  show (l.reverse.lookup key).or none = _
  rw [Option.or_none]

end Handoff.SortedMap
