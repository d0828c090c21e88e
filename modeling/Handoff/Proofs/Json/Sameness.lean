import Handoff.Json.Record
import Handoff.Proofs.Ordered.Map
import Handoff.Proofs.Ordered.Sorted
import Mathlib.Data.List.Perm.Subperm

/-!
# When values say the same

Objects that repeat no key say the same if they agree key by key. Among the values without an unusable leaf
whose objects repeat no key, saying the same is reflexive and symmetric, and what is written for records is
of this kind.
-/

namespace Handoff.Json

/-- Whether a value has no unusable leaf and no object that repeats a key. -/
inductive KeysDistinct : Json → Prop where
  | null : KeysDistinct null
  | bool (b : Bool) : KeysDistinct (bool b)
  | int (i : Int) : KeysDistinct (int i)
  | number (x : Binary64) : KeysDistinct (number x)
  | string (s : String) : KeysDistinct (string s)
  | array {items : List Json} : (∀ item ∈ items, KeysDistinct item) → KeysDistinct (array items)
  | object {members : List (String × Json)} : (members.map Prod.fst).Nodup →
    (∀ m ∈ members, KeysDistinct m.2) → KeysDistinct (object members)

attribute [simp] KeysDistinct.bool KeysDistinct.number KeysDistinct.string

/-! ## Comparing item by item and key by key -/

private theorem sameItems_self {l : List Json} (h : ∀ a ∈ l, a.same a = true) : sameItems l l = true := by
  induction l with
  | nil => rfl
  | cons a rest ih =>
    obtain ⟨first, others⟩ := List.forall_mem_cons.1 h
    rw [sameItems, first, ih others]
    rfl

private theorem sameItems_symm {l l' : List Json}
    (h : ∀ a ∈ l, ∀ b ∈ l', a.same b = true → b.same a = true) (same : sameItems l l' = true) :
    sameItems l' l = true := by
  induction l generalizing l' with
  | nil =>
    cases l' with
    | nil => rfl
    | cons => cases same
  | cons a rest ih =>
    cases l' with
    | nil => cases same
    | cons b rest' =>
      rw [sameItems, Bool.and_eq_true] at same ⊢
      exact ⟨h a List.mem_cons_self b List.mem_cons_self same.1,
        ih (fun a ha b hb => h a (List.mem_cons_of_mem _ ha) b (List.mem_cons_of_mem _ hb)) same.2⟩

private theorem sameMembers_eq_true_iff {l other : List (String × Json)} :
    sameMembers l other = true ↔ ∀ e ∈ l, ∃ j, other.lookup e.1 = some j ∧ e.2.same j = true := by
  induction l with
  | nil => simp [sameMembers]
  | cons e rest ih =>
    obtain ⟨key, value⟩ := e
    rw [sameMembers, Bool.and_eq_true, ih, List.forall_mem_cons]
    refine and_congr_left fun _ => ?_
    cases other.lookup key <;> simp

private theorem mem_keys_iff {l : List (String × Json)} {key : String} :
    key ∈ l.map Prod.fst ↔ ∃ a, l.lookup key = some a := by
  rw [← Option.isSome_iff_exists, List.lookup_isSome_iff, List.mem_map]
  simp only [beq_iff_eq]
  exact exists_congr fun e => and_congr_right fun _ => eq_comm

/-- Objects that repeat no key say the same if each key has values in both that say the same, or no value in
either. -/
theorem same_object_iff {l l' : List (String × Json)} (distinct : (l.map Prod.fst).Nodup)
    (distinct' : (l'.map Prod.fst).Nodup) :
    (object l).same (object l') = true ↔ ∀ key,
      (∃ a b, l.lookup key = some a ∧ l'.lookup key = some b ∧ a.same b = true) ∨
        l.lookup key = none ∧ l'.lookup key = none := by
  have size (l : List (String × Json)) : (l.map Prod.fst).length = l.length := List.length_map ..
  rw [same, Bool.and_eq_true, beq_iff_eq, sameMembers_eq_true_iff]
  constructor
  · rintro ⟨length, all⟩ key
    have counterpart {key : String} {a : Json} (ha : l.lookup key = some a) :
        ∃ b, l'.lookup key = some b ∧ a.same b = true :=
      all (key, a) (OrderedMap.mem_of_get? (m := ⟨l, distinct⟩) ha)
    have within : l.map Prod.fst ⊆ l'.map Prod.fst := by
      intro key hkey
      obtain ⟨a, ha⟩ := mem_keys_iff.1 hkey
      obtain ⟨b, hb, -⟩ := counterpart ha
      exact mem_keys_iff.2 ⟨b, hb⟩
    -- With as many keys, the other object has no key of its own.
    have perm : (l.map Prod.fst).Perm (l'.map Prod.fst) :=
      (distinct.subperm within).perm_of_length_le (by rw [size, size]; exact Nat.le_of_eq length.symm)
    cases ha : l.lookup key with
    | some a =>
      obtain ⟨b, hb, same⟩ := counterpart ha
      exact .inl ⟨a, b, rfl, hb, same⟩
    | none =>
      cases hb : l'.lookup key with
      | none => exact .inr ⟨rfl, rfl⟩
      | some b =>
        obtain ⟨a, ha'⟩ := mem_keys_iff.1 (perm.mem_iff.2 (mem_keys_iff.2 ⟨b, hb⟩))
        rw [ha] at ha'
        cases ha'
  · intro agree
    have keys : (l.map Prod.fst).Perm (l'.map Prod.fst) := by
      refine (List.perm_ext_iff_of_nodup distinct distinct').2 fun key => ?_
      rw [mem_keys_iff, mem_keys_iff]
      rcases agree key with ⟨a, b, ha, hb, -⟩ | ⟨ha, hb⟩
      · exact iff_of_true ⟨a, ha⟩ ⟨b, hb⟩
      · simp [ha, hb]
    refine ⟨by rw [← size l, ← size l', keys.length_eq], fun e he => ?_⟩
    have value : l.lookup e.1 = some e.2 := OrderedMap.get?_of_mem (m := ⟨l, distinct⟩) he
    rcases agree e.1 with ⟨a, b, ha, hb, same⟩ | ⟨ha, -⟩
    · rw [value] at ha
      cases ha
      exact ⟨b, hb, same⟩
    · rw [value] at ha
      cases ha

/-! ## Laws -/

namespace KeysDistinct

variable {a b : Json}

private theorem of_lookup {members : List (String × Json)} {p : Json → Prop}
    (distinct : (members.map Prod.fst).Nodup) (h : ∀ m ∈ members, p m.2) {key : String}
    (found : members.lookup key = some a) : p a :=
  h (key, a) (OrderedMap.mem_of_get? (m := ⟨members, distinct⟩) found)

/-- Such a value says the same as itself. -/
theorem same_self (h : KeysDistinct a) : a.same a = true := by
  induction h with
  | null => rfl
  | bool b => exact beq_self_eq_true b
  | int i => exact beq_self_eq_true i
  | number x => exact x.same_refl
  | string s => exact beq_self_eq_true s
  | array _ ih =>
    rw [same]
    exact sameItems_self ih
  | @object members distinct _ ih =>
    refine (same_object_iff distinct distinct).2 fun key => ?_
    cases found : members.lookup key with
    | none => exact .inr ⟨rfl, rfl⟩
    | some a => exact .inl ⟨a, a, rfl, rfl, of_lookup (p := fun a => a.same a = true) distinct ih found⟩

/-- If such a value says the same as another one, then this says the same as it. -/
theorem same_symm (ha : KeysDistinct a) (hb : KeysDistinct b) (h : a.same b = true) : b.same a = true := by
  induction ha generalizing b with
  | null | bool | int | string =>
    cases hb <;> simp_all [same]
  | number x =>
    cases hb with
    | number y =>
      rw [same] at h ⊢
      rwa [Binary64.same_comm]
    | _ => simp [same] at h
  | array _ ih =>
    cases hb with
    | array others =>
      rw [same] at h ⊢
      exact sameItems_symm (fun a ha b hb => ih a ha (others b hb)) h
    | _ => simp [same] at h
  | object distinct _ ih =>
    cases hb with
    | object distinct' others =>
      rw [same_object_iff distinct distinct'] at h
      refine (same_object_iff distinct' distinct).2 fun key => ?_
      rcases h key with ⟨a, b, ha, hb, same⟩ | ⟨ha, hb⟩
      · have mem := OrderedMap.mem_of_get? (m := ⟨_, distinct⟩) ha
        exact .inl ⟨b, a, hb, ha, ih _ mem (of_lookup (p := KeysDistinct) distinct' others hb) same⟩
      · exact .inr ⟨hb, ha⟩
    | _ => simp [same] at h

/-- Whether such values say the same does not depend on which one comes first. -/
theorem same_comm (ha : KeysDistinct a) (hb : KeysDistinct b) : a.same b = b.same a := by
  rw [Bool.eq_iff_iff]
  exact ⟨same_symm ha hb, same_symm hb ha⟩

/-! ## What is written -/

variable {α : Type} {toJson : α → Json}

/-- The items of an array are written one by one. -/
theorem map (h : ∀ a, KeysDistinct (toJson a)) (l : List α) : KeysDistinct (.array (l.map toJson)) :=
  array (List.forall_mem_map.2 fun a _ => h a)

/-- A list of strings has no keys. -/
@[simp] theorem ofStrings (l : List String) : KeysDistinct (.ofStrings l) := map string l

/-- The keys of a map are distinct. -/
theorem ofOrderedMap (h : ∀ a, KeysDistinct (toJson a)) (m : OrderedMap α) :
    KeysDistinct (.ofOrderedMap m toJson) := by
  refine object ?_ (List.forall_mem_map.2 fun e _ => h e.2)
  rw [List.map_map]
  exact m.nodup

/-- The keys of a sorted map are distinct. -/
theorem ofSortedMap (h : ∀ a, KeysDistinct (toJson a)) (m : SortedMap α) :
    KeysDistinct (.ofSortedMap m toJson) := by
  refine object ?_ (List.forall_mem_map.2 fun e _ => h e.2)
  rw [List.map_map]
  exact m.nodup_keys

end KeysDistinct
end Handoff.Json
