import Handoff.Proofs.Cache.Serving

/-!
# Stores that are alike

A store counts what happens to it, and nothing that it does depends on these counts. So stores that differ
in them at most serve alike and stay alike, whatever their tiers are. A component that is found in the
volatile tier, and one that fails, leave the store as it was but for the counts.
-/

namespace Handoff

/-- Whether two stores are the same but for what they have counted. -/
structure Store.Alike (s s' : Store) : Prop where
  document : s'.document = s.document
  volatile : s'.volatile = s.volatile
  durable : s'.durable = s.durable

namespace Store

variable {settings : Settings} {skipCache : Bool} {id : NodeId} {s s' s₁ : Store}

namespace Alike

/-- A store is like itself. -/
theorem refl (s : Store) : s.Alike s := ⟨rfl, rfl, rfl⟩

/-- Likeness is transitive. -/
theorem trans (h₁ : s.Alike s₁) (h₂ : s₁.Alike s') : s.Alike s' :=
  ⟨h₂.document.trans h₁.document, h₂.volatile.trans h₁.volatile, h₂.durable.trans h₁.durable⟩

/-- Like stores have the same in the volatile tier. -/
theorem volatile?_eq (h : s.Alike s') (id : NodeId) : s'.volatile? id = s.volatile? id := by
  rw [volatile?, volatile?, h.volatile, h.document]

/-- A store that is like one over a table and a document is over them, too. -/
theorem tiers {namespaceName key : String} {m : OrderedMap Bundle} {d : Document} (h : s.Alike s')
    (first : s.Over namespaceName key m d) : s'.Over namespaceName key m d :=
  ⟨h.volatile.trans first.volatile, h.durable.trans first.durable, h.document.trans first.document⟩

/-! ## Serving alike -/

private theorem exists_eq (h : s.Alike s') : ∃ stats, s' = { s with stats } := by
  obtain ⟨d', v', w', stats⟩ := s'
  obtain ⟨rfl, rfl, rfl⟩ := h
  exact ⟨stats, rfl⟩

private theorem promote (h : s.Alike s') (id : NodeId) (b : Bundle) :
    (s'.promote id b).2 = (s.promote id b).2 ∧ (s.promote id b).1.Alike (s'.promote id b).1 := by
  obtain ⟨stats, rfl⟩ := h.exists_eq
  unfold Store.promote
  dsimp only
  split <;> exact ⟨rfl, rfl, rfl, rfl⟩

private theorem lookupDurable (h : s.Alike s') (id : NodeId) :
    (s'.lookupDurable id).found = (s.lookupDurable id).found ∧
      (s'.lookupDurable id).log = (s.lookupDurable id).log ∧
      (s.lookupDurable id).store.Alike (s'.lookupDurable id).store := by
  obtain ⟨stats, rfl⟩ := h.exists_eq
  unfold Store.lookupDurable
  dsimp only
  split
  · next b _ =>
    have counted :
        Alike { s with stats := { s.stats with durableHits := s.stats.durableHits + 1 } }
          { s with stats := { stats with durableHits := stats.durableHits + 1 } } := ⟨rfl, rfl, rfl⟩
    obtain ⟨log, store⟩ := counted.promote id b
    exact ⟨rfl, log, store⟩
  · exact ⟨rfl, rfl, rfl, rfl, rfl⟩
  · exact ⟨rfl, rfl, rfl, rfl, rfl⟩

private theorem lookup (h : s.Alike s') (id : NodeId) :
    (s'.lookup id).found = (s.lookup id).found ∧ (s'.lookup id).log = (s.lookup id).log ∧
      (s.lookup id).store.Alike (s'.lookup id).store := by
  obtain ⟨found, log, store⟩ := h.lookupDurable id
  obtain ⟨stats, rfl⟩ := h.exists_eq
  unfold Store.lookup
  dsimp only
  split
  · exact ⟨rfl, rfl, rfl, rfl, rfl⟩
  · exact ⟨found, log, store⟩
  · exact ⟨found, congrArg (List.cons _) log, store⟩

private theorem keep (h : s.Alike s') (id : NodeId) (b : Bundle) :
    (s'.keep id b).2 = (s.keep id b).2 ∧ (s.keep id b).1.Alike (s'.keep id b).1 := by
  obtain ⟨stats, rfl⟩ := h.exists_eq
  unfold Store.keep
  dsimp only
  split
  · exact ⟨rfl, rfl, rfl, rfl⟩
  · split <;> exact ⟨rfl, rfl, rfl, rfl⟩

private theorem rebuild (h : s.Alike s') (settings : Settings) (id : NodeId) :
    (s'.rebuild settings id).2 = (s.rebuild settings id).2 ∧
      (s.rebuild settings id).1.Alike (s'.rebuild settings id).1 := by
  unfold Store.rebuild
  rw [h.document]
  split
  · exact ⟨rfl, h⟩
  · next log b _ =>
    have kept := h.keep id b
    generalize s.keep id b = first at kept ⊢
    generalize s'.keep id b = second at kept ⊢
    obtain ⟨_, result⟩ := first
    obtain ⟨_, result'⟩ := second
    obtain ⟨rfl, store⟩ := kept
    cases result' <;> exact ⟨rfl, store⟩

/-- Like stores serve a component alike and stay alike. -/
theorem serve (h : s.Alike s') (settings : Settings) (skipCache : Bool) (id : NodeId) :
    (s'.serve settings skipCache id).2 = (s.serve settings skipCache id).2 ∧
      (s.serve settings skipCache id).1.Alike (s'.serve settings skipCache id).1 := by
  unfold Store.serve
  split
  · exact h.rebuild settings id
  · have looked := h.lookup id
    generalize s.lookup id = first at looked ⊢
    generalize s'.lookup id = second at looked ⊢
    obtain ⟨t, found, log⟩ := first
    obtain ⟨t', found', log'⟩ := second
    obtain ⟨rfl, rfl, store⟩ := looked
    cases found' with
    | some b => exact ⟨rfl, store⟩
    | none =>
      obtain ⟨same, after⟩ := store.rebuild settings id
      exact ⟨by simp only [same], after⟩

end Alike

/-! ## What serving leaves alone -/

private theorem alike_of_rebuild_error {e : CompileError}
    (h : (s.rebuild settings id).2.2 = .error e) : s.Alike (s.rebuild settings id).1 := by
  unfold rebuild at h ⊢
  split
  · exact .refl s
  · next built =>
    simp only [built] at h
    split at h <;> cases h

private theorem alike_of_lookup_none (h : (s.lookup id).found = none) : s.Alike (s.lookup id).store := by
  have durable (h : (s.lookupDurable id).found = none) : s.Alike (s.lookupDurable id).store := by
    unfold lookupDurable at h ⊢
    split at h
    · cases h
    · exact ⟨rfl, rfl, rfl⟩
    · exact ⟨rfl, rfl, rfl⟩
  unfold lookup at h ⊢
  split at h
  · cases h
  · exact durable h
  · exact durable h

/-- A component that fails leaves the store as it was, but for the counts. -/
theorem alike_of_serve_error {e : CompileError} (h : (s.serve settings skipCache id).2.2 = .error e) :
    s.Alike (s.serve settings skipCache id).1 := by
  unfold serve at h ⊢
  split
  · next skip =>
    rw [if_pos skip] at h
    exact alike_of_rebuild_error h
  · next fresh =>
    rw [if_neg fresh] at h
    have missed (none : (s.lookup id).found = none) := alike_of_lookup_none none
    generalize s.lookup id = looked at missed h ⊢
    obtain ⟨t, found, log⟩ := looked
    cases found with
    | some b => cases h
    | none => exact (missed rfl).trans (alike_of_rebuild_error h)

/-- A component that the volatile tier has is served from it, and leaves the store as it was, but for the
counts. -/
theorem serve_of_volatile? {b : Bundle} (h : s.volatile? id = some b) :
    (s.serve settings false id).2.2 = .ok ⟨b, true⟩ ∧ s.Alike (s.serve settings false id).1 := by
  have read : s.volatile.read s.document id = .ok (some b) := by
    unfold volatile? at h
    split at h
    · next found => rw [found, h]
    · cases h
  unfold serve lookup
  rw [if_neg Bool.false_ne_true, read]
  exact ⟨rfl, rfl, rfl, rfl⟩

end Store
end Handoff
