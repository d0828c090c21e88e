import Mathlib.Data.List.Forall2

/-!
# Attempts in order

What may fail is attempted for the items of a list one after the other, up to the first failure. The list
succeeds exactly if each item does, and then has the results of its items; its failure is that of an item.
A list of written items is read as the items, where each of them is read so.
-/

namespace Handoff

/-- Written items that are each read are read together. -/
theorem mapM_map_eq_some {α β : Type} {write : α → β} {read : β → Option α}
    (each : ∀ a, read (write a) = some a) (items : List α) : (items.map write).mapM read = some items := by
  have again : read ∘ write = pure := funext each
  rw [List.mapM_map, again, List.mapM_pure, List.map_id']
  rfl

variable {α β ε : Type} {f : α → Except ε β} {items : List α}

/-- The results of a list are those of its items. -/
theorem mapM_eq_ok_iff {results : List β} :
    items.mapM f = .ok results ↔ items.Forall₂ (fun a b => f a = .ok b) results := by
  induction items generalizing results with
  | nil => simp [pure, Except.pure, eq_comm]
  | cons a rest ih =>
    rw [List.mapM_cons, List.forall₂_cons_left_iff]
    simp only [← ih]
    cases f a with
    | error e => simp [bind, Except.bind]
    | ok b => cases rest.mapM f <;> simp [bind, Except.bind, pure, Except.pure, @eq_comm _ results]

/-- What succeeds for each item succeeds for the list of them, and each result has what is known of it. -/
theorem exists_mapM_ok {P : α → β → Prop} (each : ∀ a ∈ items, ∃ b, f a = .ok b ∧ P a b) :
    ∃ results, items.mapM f = .ok results ∧ items.Forall₂ P results := by
  induction items with
  | nil => exact ⟨[], rfl, .nil⟩
  | cons a rest ih =>
    obtain ⟨b, first, holds⟩ := each a List.mem_cons_self
    obtain ⟨results, others, holdAll⟩ := ih fun c hc => each c (List.mem_cons_of_mem _ hc)
    exact ⟨b :: results, by rw [List.mapM_cons, first, others]; rfl, .cons holds holdAll⟩

/-- A list fails as one of its items does. -/
theorem exists_of_mapM_error {e : ε} (h : items.mapM f = .error e) : ∃ a ∈ items, f a = .error e := by
  induction items with
  | nil => cases h
  | cons a rest ih =>
    rw [List.mapM_cons] at h
    cases first : f a with
    | error e' =>
      rw [first] at h
      cases h
      exact ⟨a, List.mem_cons_self, first⟩
    | ok b =>
      cases others : rest.mapM f with
      | error e' =>
        rw [first, others] at h
        cases h
        obtain ⟨c, listed, failed⟩ := ih others
        exact ⟨c, List.mem_cons_of_mem _ listed, failed⟩
      | ok results =>
        rw [first, others] at h
        cases h

/-- A list fails exactly if one of its items does. -/
theorem mapM_fails_iff : (∃ e, items.mapM f = .error e) ↔ ∃ a ∈ items, ∃ e, f a = .error e := by
  constructor
  · rintro ⟨e, failed⟩
    obtain ⟨a, listed, own⟩ := exists_of_mapM_error failed
    exact ⟨a, listed, e, own⟩
  · rintro ⟨a, listed, e, failed⟩
    cases all : items.mapM f with
    | error e' => exact ⟨e', rfl⟩
    | ok results =>
      have each := mapM_eq_ok_iff.1 all
      obtain ⟨i, inside, rfl⟩ := List.getElem_of_mem listed
      have own := each.get inside (each.length_eq ▸ inside)
      rw [List.get_eq_getElem, failed] at own
      cases own

end Handoff
