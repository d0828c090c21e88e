/-!
# Sets in insertion order

A set keeps its elements in the order in which they first came, each once.
-/

namespace Handoff

universe u

/-- A set that remembers the order of its elements. -/
structure OrderedSet (α : Type u) where
  elems : List α
  nodup : elems.Nodup

namespace OrderedSet

variable {α : Type u}

/-- Sets with the same elements in the same order are equal. -/
@[ext] theorem ext {s t : OrderedSet α} (h : s.elems = t.elems) : s = t := by
  cases s
  cases t
  simp_all

variable [DecidableEq α]

instance : DecidableEq (OrderedSet α) := fun s t =>
  decidable_of_iff (s.elems = t.elems) ⟨ext, congrArg elems⟩

/-- The set without elements. -/
def empty : OrderedSet α := ⟨[], List.nodup_nil⟩

instance : Inhabited (OrderedSet α) := ⟨empty⟩

/-- Whether an element is present. -/
def contains (s : OrderedSet α) (a : α) : Bool := s.elems.contains a

/-- Whether there are no elements. -/
def isEmpty (s : OrderedSet α) : Bool := s.elems.isEmpty

/-- The number of elements. -/
def size (s : OrderedSet α) : Nat := s.elems.length

/-- Add an element at the end unless it is present. -/
def insert (s : OrderedSet α) (a : α) : OrderedSet α :=
  if h : a ∈ s.elems then s
  else
    ⟨s.elems ++ [a], by
      rw [List.nodup_append]
      refine ⟨s.nodup, by simp, ?_⟩
      intro x hx y hy he
      simp only [List.mem_singleton] at hy
      exact h (hy ▸ he ▸ hx)⟩

/-- Add the elements of a list from left to right. -/
def insertAll (s : OrderedSet α) (l : List α) : OrderedSet α := l.foldl insert s

/-- The set of a list, in the order of first occurrences. -/
def ofList (l : List α) : OrderedSet α := empty.insertAll l

/-- The elements after adding one. -/
theorem mem_insert {s : OrderedSet α} {a b : α} :
    b ∈ (s.insert a).elems ↔ b = a ∨ b ∈ s.elems := by
  unfold insert
  split
  · next h => exact ⟨Or.inr, fun hb => hb.elim (fun e => e ▸ h) id⟩
  · simp [or_comm]

/-- The elements after adding a list. -/
theorem mem_insertAll {s : OrderedSet α} {l : List α} {b : α} :
    b ∈ (s.insertAll l).elems ↔ b ∈ l ∨ b ∈ s.elems := by
  unfold insertAll
  induction l generalizing s with
  | nil => simp
  | cons a rest ih =>
    rw [List.foldl_cons, ih, mem_insert]
    simp only [List.mem_cons]
    constructor
    · rintro (h | h | h)
      · exact Or.inl (Or.inr h)
      · exact Or.inl (Or.inl h)
      · exact Or.inr h
    · rintro ((h | h) | h)
      · exact Or.inr (Or.inl h)
      · exact Or.inl h
      · exact Or.inr (Or.inr h)

/-- A set built from a list has the members of the list. -/
theorem mem_ofList {l : List α} {b : α} : b ∈ (ofList l).elems ↔ b ∈ l := by
  rw [ofList, mem_insertAll]
  simp [empty]

end OrderedSet
end Handoff
