import Handoff.Proofs.Session.Pass

/-!
# Serving a component over any tiers

Whatever the two tiers are, serving a component changes plugin data only, and a component that is served
without the cache is compiled. The volatile tier then has the bundle that is handed out, if any, and the
same as before for other components.
-/

namespace Handoff

variable {settings : Settings} {skipCache : Bool} {id : NodeId}

/-- Writing to a tier changes plugin data only. -/
theorem Tier.bare_write {t t' : Tier} {d d' : Document} {b : Bundle} (h : t.write d id b = .ok (t', d')) :
    d'.bare = d.bare := by
  cases t with
  | memory entries =>
    cases h
    rfl
  | nodeData namespaceName key =>
    simp only [write] at h
    split at h
    · next written =>
      cases h
      unfold Document.setPluginValue at written
      split at written
      · cases written
        exact Document.bare_modifyNode id fun _ => rfl
      · cases written
    · cases h

namespace Store

variable {s : Store}

/-! ## The document -/

private theorem bare_promote (b : Bundle) : (s.promote id b).1.document.bare = s.document.bare := by
  unfold promote
  split
  · next h => exact Tier.bare_write h
  · rfl

private theorem bare_lookup (s : Store) (id : NodeId) :
    (s.lookup id).store.document.bare = s.document.bare := by
  have durable : (s.lookupDurable id).store.document.bare = s.document.bare := by
    unfold lookupDurable
    split
    · exact bare_promote _
    · rfl
    · rfl
  unfold lookup
  split
  · rfl
  · exact durable
  · exact durable

private theorem bare_keep (s : Store) (id : NodeId) (b : Bundle) :
    (s.keep id b).1.document.bare = s.document.bare := by
  unfold keep
  split
  · rfl
  · next first =>
    simp only
    split
    · exact Tier.bare_write first
    · next second => exact (Tier.bare_write second).trans (Tier.bare_write first)

private theorem bare_rebuild : (s.rebuild settings id).1.document.bare = s.document.bare := by
  unfold rebuild
  split
  · rfl
  · next b _ =>
    have kept := bare_keep s id b
    split <;> next h => exact (by rw [h] at kept; exact kept)

/-- Serving a component changes plugin data only. -/
theorem bare_serve (settings : Settings) (skipCache : Bool) (s : Store) (id : NodeId) :
    (s.serve settings skipCache id).1.document.bare = s.document.bare := by
  unfold serve
  split
  · exact bare_rebuild
  · have looked := bare_lookup s id
    split
    · next h => exact (by rw [h] at looked; exact looked)
    · next h => exact bare_rebuild.trans (by rw [h] at looked; exact looked)

/-! ## Results -/

/-- Compiling anew yields what the component compiles to, whether or not the bundle can be kept. -/
theorem result_rebuild (s : Store) :
    (s.rebuild settings id).2.2 = (s.document.compile settings id).2.map (⟨·, false⟩) := by
  unfold rebuild
  split
  · next h => rw [h]; rfl
  · next h =>
    rw [h]
    split <;> rfl

/-- Serving a component yields what it compiles to, unless it comes from the cache. -/
theorem result_of_serve (settings : Settings) (skipCache : Bool) (s : Store) (id : NodeId) :
    (s.serve settings skipCache id).2.2 = (s.document.compile settings id).2.map (⟨·, false⟩) ∨
      skipCache = false ∧ ∃ b, (s.serve settings skipCache id).2.2 = .ok ⟨b, true⟩ := by
  unfold serve
  split
  · exact .inl (result_rebuild s)
  · next fresh =>
    have looked := bare_lookup s id
    split
    · next b _ _ => exact .inr ⟨by simpa using fresh, b, rfl⟩
    · next h =>
      rw [h] at looked
      exact .inl ((result_rebuild _).trans (by rw [Document.compile_of_bare_eq looked]))

/-- A component that is served without the cache compiles to what is handed out. -/
theorem compile_of_serve {o : Outcome} (h : (s.serve settings true id).2.2 = .ok o) :
    (s.document.compile settings id).2 = .ok o.bundle := by
  rcases result_of_serve settings true s id with own | ⟨cached, -⟩
  · rw [own] at h
    cases hc : (s.document.compile settings id).2 with
    | error e =>
      rw [hc] at h
      cases h
    | ok b =>
      rw [hc] at h
      cases h
      rfl
  · cases cached

/-! ## What the volatile tier has -/

end Store

namespace Tier

variable {t w w' : Tier} {d d' : Document} {b : Bundle}

/-- Whether a tier reads back what it is given. A table does; texts on nodes do where the printed form of
every number is read as that number. -/
def ReadsBack : Tier → Prop
  | memory _ => True
  | nodeData _ _ => ∀ x : Binary64, x.ReadsBack

private theorem sizesReadBack (back : ∀ x : Binary64, x.ReadsBack) (b : Bundle) : b.SizesReadBack :=
  fun _ _ => ⟨back _, back _⟩

private theorem write_nodeData {namespaceName key : String}
    (h : (nodeData namespaceName key).write d id b = .ok (w', d')) :
    w' = nodeData namespaceName key ∧ d' = d.keeping namespaceName key id b ∧
      ∃ n, d.node? id = some n := by
  cases known : d.contains id with
  | false => simp [write, Document.setPluginValue, known] at h
  | true =>
    simp only [write, Document.setPluginValue, known, if_true] at h
    cases h
    rw [Document.contains_eq_isSome, Option.isSome_iff_exists] at known
    exact ⟨rfl, rfl, known⟩

/-- A tier that cannot be written to for an id has nothing for it. -/
theorem read_of_write_error {e : CompileError} (h : w.write d id b = .error e) :
    w.read d id = .ok none := by
  cases w with
  | memory => cases h
  | nodeData namespaceName key =>
    cases known : d.contains id with
    | true => simp [write, Document.setPluginValue, known] at h
    | false =>
      rw [Document.contains_eq_isSome, Option.isSome_eq_false_iff, Option.isNone_iff_eq_none] at known
      have none : payload? d namespaceName key id = none := by
        rw [payload?, Document.pluginValue?, known]
        rfl
      rw [read, none]

/-- A tier that was written to for an id has the same for others. -/
theorem read_of_write_of_ne (h : w.write d id b = .ok (w', d')) {k : NodeId} (hk : k ≠ id) :
    w'.read d' k = w.read d k := by
  cases w with
  | memory entries =>
    cases h
    rw [read_memory, read_memory, OrderedMap.get?_insert, if_neg hk]
  | nodeData namespaceName key =>
    obtain ⟨rfl, rfl, -⟩ := write_nodeData h
    exact Document.kept_keeping_of_ne hk b

/-- A tier that reads back has what was written to it. -/
theorem read_of_write (back : w.ReadsBack) (h : w.write d id b = .ok (w', d')) :
    w'.read d' id = .ok (some b) := by
  cases w with
  | memory entries =>
    cases h
    rw [read_memory, OrderedMap.get?_insert, if_pos rfl]
  | nodeData namespaceName key =>
    obtain ⟨rfl, rfl, n, hn⟩ := write_nodeData h
    exact Document.kept_keeping hn (sizesReadBack back b)

/-- Writing keeps the kind of a tier. -/
theorem ReadsBack.write (back : w.ReadsBack) (h : w.write d id b = .ok (w', d')) : w'.ReadsBack := by
  cases w with
  | memory entries =>
    cases h
    trivial
  | nodeData namespaceName key =>
    obtain ⟨rfl, -, -⟩ := write_nodeData h
    exact back

/-- Forgetting keeps the kind of a tier. -/
theorem ReadsBack.retain (back : t.ReadsBack) (keep : NodeId → Bool) : (t.retain keep).ReadsBack := by
  cases t with
  | memory => trivial
  | nodeData => exact back

/-- Writing to one tier for an id leaves what another tier has for others. -/
theorem read_of_other_write_of_ne (t : Tier) (h : w.write d id b = .ok (w', d')) {k : NodeId}
    (hk : k ≠ id) : t.read d' k = t.read d k := by
  cases w with
  | memory =>
    cases h
    rfl
  | nodeData namespaceName key =>
    obtain ⟨-, rfl, -⟩ := write_nodeData h
    cases t with
    | memory => rfl
    | nodeData other otherKey => exact Document.kept_keeping_of_ne hk b

/-- Writing to one tier leaves what another tier has, unless both keep it at one place. -/
theorem read_of_other_write (back : t.ReadsBack) (h : w.write d id b = .ok (w', d')) :
    t.read d' id = t.read d id ∨ t.read d' id = .ok (some b) := by
  cases w with
  | memory =>
    cases h
    exact .inl rfl
  | nodeData namespaceName key =>
    obtain ⟨-, rfl, n, hn⟩ := write_nodeData h
    cases t with
    | memory => exact .inl rfl
    | nodeData other otherKey =>
      by_cases same : other = namespaceName ∧ otherKey = key
      · obtain ⟨rfl, rfl⟩ := same
        exact .inr (Document.kept_keeping hn (sizesReadBack back b))
      · exact .inl (Document.kept_keeping_elsewhere same b id)

end Tier

namespace Store

variable {s s₁ s' : Store} {handed : Option Bundle} {b : Bundle}

private theorem volatile?_congr {k : NodeId}
    (h : s'.volatile.read s'.document k = s.volatile.read s.document k) :
    s'.volatile? k = s.volatile? k := by
  rw [volatile?, volatile?, h]

/-- What becomes of the volatile tier when a component is served, and a bundle handed out or not: it has
the same for other components, it has no other bundle for this one than what was handed out, and the same
as before if nothing was. -/
structure Recalls (s s' : Store) (id : NodeId) (handed : Option Bundle) : Prop where
  others : ∀ k, k ≠ id → s'.volatile? k = s.volatile? k
  own : s.volatile.ReadsBack → ∀ b, handed = some b → ∀ b', s'.volatile? id = some b' → b' = b
  nothing : handed = none → s'.volatile? id = s.volatile? id
  readsBack : s.volatile.ReadsBack → s'.volatile.ReadsBack

private theorem Recalls.of_same (volatile : s'.volatile = s.volatile) (document : s'.document = s.document) :
    Recalls s s' id none where
  others k _ := by rw [volatile?, volatile?, volatile, document]
  own _ _ h := by cases h
  nothing _ := by rw [volatile?, volatile?, volatile, document]
  readsBack back := volatile ▸ back

private theorem Recalls.trans (first : Recalls s s₁ id none) (second : Recalls s₁ s' id handed) :
    Recalls s s' id handed where
  others k hk := (second.others k hk).trans (first.others k hk)
  own back := second.own (first.readsBack back)
  nothing none := (second.nothing none).trans (first.nothing rfl)
  readsBack back := second.readsBack (first.readsBack back)

private theorem recalls_found (volatile : s'.volatile = s.volatile) (document : s'.document = s.document)
    (h : s.volatile? id = some b) : Recalls s s' id (some b) where
  others k _ := by rw [volatile?, volatile?, volatile, document]
  own _ _ same b' found := by
    rw [volatile?, volatile, document, ← volatile?, h] at found
    exact Option.some.inj (found.symm.trans same)
  nothing none := by cases none
  readsBack back := volatile ▸ back

private theorem recalls_unwritten {e : CompileError} (h : s.volatile.write s.document id b = .error e) :
    Recalls s s id (some b) where
  others _ _ := rfl
  own _ _ _ b' found := by
    rw [volatile?, Tier.read_of_write_error h] at found
    cases found
  nothing none := by cases none
  readsBack back := back

private theorem recalls_written (h : s.volatile.write s.document id b = .ok (s'.volatile, s'.document)) :
    Recalls s s' id (some b) where
  others k hk := volatile?_congr (Tier.read_of_write_of_ne h hk)
  own back _ same b' found := by
    rw [volatile?, Tier.read_of_write back h] at found
    exact Option.some.inj (found.symm.trans same)
  nothing none := by cases none
  readsBack back := back.write h

private theorem Recalls.write_durable {durable : Tier} {document : Document}
    (first : Recalls s s₁ id (some b))
    (h : s₁.durable.write s₁.document id b = .ok (durable, document)) :
    Recalls s { s₁ with durable, document } id (some b) where
  others k hk := (volatile?_congr (Tier.read_of_other_write_of_ne _ h hk)).trans (first.others k hk)
  own back b₁ same b' found := by
    rcases Tier.read_of_other_write (first.readsBack back) h with before | written
    · exact first.own back b₁ same b' ((volatile?_congr before).symm.trans found)
    · have now : Store.volatile? { s₁ with durable, document } id = some b := by
        rw [volatile?, written]
      exact Option.some.inj (found.symm.trans (now.trans same))
  nothing none := by cases none
  readsBack back := first.readsBack back

private theorem keep_recalls (s : Store) (id : NodeId) (b : Bundle) :
    Recalls s (s.keep id b).1 id (some b) := by
  unfold keep
  split
  · next h => exact recalls_unwritten h
  · next volatile document h =>
    have first : Recalls s
        { s with volatile, document, stats := { s.stats with writes := s.stats.writes + 1 } } id (some b) :=
      recalls_written h
    simp only
    split
    · exact first
    · next second => exact first.write_durable second

private theorem rebuild_recalls (s : Store) (id : NodeId) :
    Recalls s (s.rebuild settings id).1 id (servedBundle? (s.rebuild settings id).2.2) := by
  unfold rebuild
  split
  · exact .of_same rfl rfl
  · next b _ =>
    have kept := keep_recalls s id b
    split <;> next h =>
      rw [h] at kept
      exact kept

private theorem promote_recalls (s : Store) (id : NodeId) (b : Bundle) :
    Recalls s (s.promote id b).1 id (some b) := by
  unfold promote
  split
  · next h => exact recalls_written h
  · next h => exact recalls_unwritten h

private theorem lookup_recalls (s : Store) (id : NodeId) :
    Recalls s (s.lookup id).store id (s.lookup id).found := by
  have durable : Recalls s (s.lookupDurable id).store id (s.lookupDurable id).found := by
    unfold lookupDurable
    split
    · next b _ =>
      have hit : Recalls s { s with stats := { s.stats with durableHits := s.stats.durableHits + 1 } } id none :=
        .of_same rfl rfl
      exact hit.trans (promote_recalls _ id b)
    · exact .of_same rfl rfl
    · exact .of_same rfl rfl
  unfold lookup
  split
  · next h => exact recalls_found rfl rfl (by rw [volatile?, h])
  · exact durable
  · exact durable

/-- Serving a component over any tiers. -/
theorem serve_recalls (settings : Settings) (skipCache : Bool) (s : Store) (id : NodeId) :
    Recalls s (s.serve settings skipCache id).1 id
      (servedBundle? (s.serve settings skipCache id).2.2) := by
  unfold serve
  split
  · exact rebuild_recalls s id
  · have looked := lookup_recalls s id
    split
    · next h =>
      rw [h] at looked
      exact looked
    · next h =>
      rw [h] at looked
      exact looked.trans (rebuild_recalls _ id)

end Store
end Handoff
