import Handoff.Scene.PropertyOrder

/-!
# Laws of the property orders

Both orders of properties are lawful comparisons of all keys with all types. The display order tells
different properties apart, the declaration order tells different keys apart and booleans from the rest.
So lists of properties with distinct keys are sorted to the same list, however they were stored.
-/

namespace Handoff.PropertyOrder

/-! ## Lawful comparisons -/

/-- Keys are compared lexicographically, first in small letters. -/
instance : Std.TransCmp byKey :=
  inferInstanceAs (Std.TransCmp (compareLex (compareOn Text.lowercaseString) compare))

private theorem transCmp_on {α β : Type} (f : α → β) (cmp : β → β → Ordering) [Std.TransCmp cmp] :
    Std.TransCmp fun a b => cmp (f a) (f b) where
  eq_swap := Std.OrientedCmp.eq_swap
  isLE_trans := Std.TransCmp.isLE_trans

private instance : Std.TransCmp fun a b : String × PropertyType => byKey a.1 b.1 :=
  transCmp_on Prod.fst byKey

/-- The declaration order is a lawful comparison. -/
instance : Std.TransCmp declaration := by
  -- Booleans come first, so the truth values are compared the other way round.
  have booleans : Std.TransCmp fun a b : String × PropertyType =>
      compare (b.2 == .boolean) (a.2 == .boolean) :=
    transCmp_on (fun a : String × PropertyType => a.2 == .boolean) fun a b => compare b a
  exact inferInstanceAs (Std.TransCmp (compareLex _ _))

/-- The display order is a lawful comparison. -/
instance : Std.TransCmp display :=
  inferInstanceAs (Std.TransCmp (compareLex
    (compareLex (compareOn fun a : String × PropertyType => a.2.isConditional) (compareOn (·.2.token)))
    fun a b => byKey a.1 b.1))

/-- Only equal keys compare equal. -/
theorem byKey_eq_eq {a b : String} : byKey a b = .eq ↔ a = b := by
  rw [byKey, Ordering.then_eq_eq, Std.compare_eq_iff_eq, Std.compare_eq_iff_eq]
  constructor
  · rintro ⟨-, same⟩
    exact same
  · rintro rfl
    exact ⟨rfl, rfl⟩

/-- In the declaration order only properties of one key that are both boolean or both not compare equal. -/
theorem declaration_eq_eq {a b : String × PropertyType} :
    declaration a b = .eq ↔ a.1 = b.1 ∧ (a.2 = .boolean ↔ b.2 = .boolean) := by
  have types : (b.2 == .boolean) = (a.2 == .boolean) ↔ (a.2 = .boolean ↔ b.2 = .boolean) := by
    rw [Bool.eq_iff_iff, beq_iff_eq, beq_iff_eq]
    exact ⟨Iff.symm, Iff.symm⟩
  rw [declaration, Ordering.then_eq_eq, Std.compare_eq_iff_eq, byKey_eq_eq, types, and_comm]

/-- In the display order only equal keys with equal types compare equal. -/
theorem display_eq_eq {a b : String × PropertyType} : display a b = .eq ↔ a = b := by
  rw [display, Ordering.then_eq_eq, Ordering.then_eq_eq, Std.compare_eq_iff_eq, Std.compare_eq_iff_eq,
    byKey_eq_eq]
  constructor
  · rintro ⟨⟨-, token⟩, key⟩
    have types : some a.2 = some b.2 := by
      rw [← PropertyType.ofToken?_token, token, PropertyType.ofToken?_token]
    exact Prod.ext key (Option.some.inj types)
  · rintro rfl
    exact ⟨⟨rfl, rfl⟩, rfl⟩

/-! ## Sorted lists -/

section

variable {α : Type} {order : String × PropertyType → String × PropertyType → Ordering}
  {key : α → String × PropertyType}

/-- A list sorted by a lawful order ascends. -/
theorem pairwise_sortBy [Std.TransCmp order] (items : List α) :
    (sortBy order key items).Pairwise fun a b => (order (key a) (key b)).isLE = true := by
  apply List.pairwise_mergeSort
  · intro a b c hab hbc
    exact Std.TransCmp.isLE_trans hab hbc
  · intro a b
    have swap : order (key a) (key b) = (order (key b) (key a)).swap := Std.OrientedCmp.eq_swap
    rw [swap]
    cases order (key b) (key a) <;> rfl

/-- Lists of the same items, all of which compare different, are sorted to the same list. -/
theorem sortBy_eq_of_perm [Std.TransCmp order] {l₁ l₂ : List α} (perm : l₁.Perm l₂)
    (apart : ∀ a ∈ l₁, ∀ b ∈ l₁, order (key a) (key b) = .eq → a = b) :
    sortBy order key l₁ = sortBy order key l₂ := by
  have listed {a : α} (h : a ∈ sortBy order key l₁) : a ∈ l₁ := (sortBy_perm _ _ _).mem_iff.1 h
  have listed' {a : α} (h : a ∈ sortBy order key l₂) : a ∈ l₁ :=
    perm.mem_iff.2 ((sortBy_perm _ _ _).mem_iff.1 h)
  apply List.Perm.eq_of_pairwise _ (pairwise_sortBy l₁) (pairwise_sortBy l₂)
  · exact (sortBy_perm _ _ _).trans (perm.trans (sortBy_perm _ _ _).symm)
  · intro a b ha hb hab hba
    exact apart a (listed ha) b (listed' hb) (Std.OrientedCmp.isLE_antisymm hab hba)

/-- Sorting commutes with changes that keep the keys. -/
theorem sortBy_map {f : α → α} (keeps : ∀ a, key (f a) = key a) (items : List α) :
    sortBy order key (items.map f) = (sortBy order key items).map f := by
  unfold sortBy
  symm
  apply List.map_mergeSort
  intro a _ b _
  rw [keeps, keeps]

end

end Handoff.PropertyOrder
