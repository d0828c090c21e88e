import Handoff.Ordered.Map
import Handoff.Ordered.Set
import Mathlib.Data.List.Induction

/-!
# Order in sets and maps in insertion order

The set of a list has its elements in the order in which they first come in the list. So an element that
a mapped list yields stands where the first preimage stands that yields it. The keys of the map of a list
are the set of the keys in the list.
-/

namespace Handoff.OrderedSet

universe u v

variable {α : Type u} {β : Type v} [DecidableEq α]

/-- The elements after adding one more element of a list at its end. -/
theorem ofList_concat (l : List α) (a : α) : ofList (l ++ [a]) = (ofList l).insert a := by
  simp [ofList, insertAll]

/-- The elements after adding one, in order. -/
theorem elems_insert (s : OrderedSet α) (a : α) :
    (s.insert a).elems = if a ∈ s.elems then s.elems else s.elems ++ [a] := by
  unfold insert
  split <;> rfl

/-- The set of a part of a list is the part of its set. -/
theorem elems_ofList_filter (p : α → Bool) (l : List α) :
    (ofList (l.filter p)).elems = (ofList l).elems.filter p := by
  induction l using List.reverseRecOn with
  | nil => rfl
  | append_singleton l a ih =>
    rw [List.filter_append, ofList_concat, elems_insert]
    cases hp : p a with
    | false =>
      have none : [a].filter p = [] := by simp [hp]
      rw [none, List.append_nil, ih]
      split
      · rfl
      · rw [List.filter_append, none, List.append_nil]
    | true =>
      have own : [a].filter p = [a] := by simp [hp]
      rw [own, ofList_concat, elems_insert, ih]
      by_cases known : a ∈ (ofList l).elems
      · rw [if_pos known, if_pos (List.mem_filter.2 ⟨known, hp⟩)]
      · rw [if_neg known, if_neg fun h => known (List.mem_filter.1 h).1, List.filter_append, own]

/-- The set of a mapped list has its elements in the order of the first list members that yield them. -/
theorem pairwise_findIdx_ofList (f : β → Option α) (l : List β) :
    (ofList (l.filterMap f)).elems.Pairwise fun a b =>
      l.findIdx (fun x => f x = some a) < l.findIdx (fun x => f x = some b) := by
  -- A member at the end of the list yields at most one element, and that comes after all others.
  induction l using List.reverseRecOn with
  | nil => exact List.Pairwise.nil
  | append_singleton l x ih =>
    have found {a : α} (h : a ∈ (ofList (l.filterMap f)).elems) :
        (l ++ [x]).findIdx (fun y => f y = some a) = l.findIdx (fun y => f y = some a) ∧
          l.findIdx (fun y => f y = some a) < l.length := by
      obtain ⟨y, hy, hf⟩ := List.mem_filterMap.1 (mem_ofList.1 h)
      have early : l.findIdx (fun y => f y = some a) < l.length :=
        List.findIdx_lt_length_of_exists ⟨y, hy, by simpa using hf⟩
      refine ⟨?_, early⟩
      rw [List.findIdx_append, if_pos early]
    have kept : (ofList (l.filterMap f)).elems.Pairwise fun a b =>
        (l ++ [x]).findIdx (fun y => f y = some a) < (l ++ [x]).findIdx (fun y => f y = some b) := by
      refine ih.imp_of_mem ?_
      intro a b ha hb hlt
      rw [(found ha).1, (found hb).1]
      exact hlt
    rw [List.filterMap_append]
    cases hx : f x with
    | none =>
      rw [show [x].filterMap f = [] by simp [hx], List.append_nil]
      exact kept
    | some a =>
      rw [show [x].filterMap f = [a] by simp [hx], ofList_concat, insert]
      split
      · exact kept
      · next fresh =>
        refine List.pairwise_append.2 ⟨kept, List.pairwise_singleton _ _, ?_⟩
        intro b hb c hc
        obtain rfl := List.mem_singleton.1 hc
        have absent : ¬ l.findIdx (fun y => f y = some c) < l.length := by
          rw [List.findIdx_lt_length]
          rintro ⟨y, hy, hf⟩
          exact fresh (mem_ofList.2 (List.mem_filterMap.2 ⟨y, hy, by simpa using hf⟩))
        rw [(found hb).1, List.findIdx_append, if_neg absent]
        exact Nat.lt_of_lt_of_le (found hb).2 (Nat.le_add_left _ _)

end Handoff.OrderedSet

namespace Handoff.OrderedMap

universe u

variable {β : Type u}

private theorem keys_insertAll {m : OrderedMap β} {s : OrderedSet String} (same : m.keys = s.elems)
    (l : List (String × β)) : (m.insertAll l).keys = (s.insertAll (l.map Prod.fst)).elems := by
  induction l generalizing m s with
  | nil => exact same
  | cons e rest ih =>
    show ((m.insert e.1 e.2).insertAll rest).keys = ((s.insert e.1).insertAll (rest.map Prod.fst)).elems
    apply ih
    rw [keys_insert, same, OrderedSet.insert]
    split <;> rfl

/-- The keys of the map of a list come in the order in which they first come in the list. -/
theorem keys_ofList (l : List (String × β)) :
    (ofList l).keys = (OrderedSet.ofList (l.map Prod.fst)).elems :=
  keys_insertAll rfl l

end Handoff.OrderedMap
