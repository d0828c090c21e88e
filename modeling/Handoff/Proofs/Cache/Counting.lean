import Handoff.Proofs.Session.Pass

/-!
# What a cache counts

A lookup counts as a hit in one of the tiers or as a miss, and some misses count as failures to decode
besides. A component that compiles has a node, so that at least the volatile tier can be written, and this
counts as a write. Hence whatever the tiers are, what a cache counts while a component is served says how
the component was served.
-/

namespace Handoff

/-- What is counted between two states of a cache, of which a miss may be a failure to decode. -/
structure CacheStats.Gains (hits misses writes : Nat) (before after : CacheStats) : Prop where
  hit : after.memoryHits + after.durableHits = before.memoryHits + before.durableHits + hits
  missed : after.misses = before.misses + misses
  written : after.writes = before.writes + writes
  undecoded : before.decodeFailures ≤ after.decodeFailures ∧
    after.decodeFailures ≤ before.decodeFailures + misses

namespace CacheStats.Gains

variable {hits misses writes hits' misses' writes' : Nat} {before between after : CacheStats}

/-- Where nothing happens, nothing is counted. -/
theorem refl (c : CacheStats) : Gains 0 0 0 c c :=
  ⟨rfl, rfl, rfl, Nat.le_refl _, Nat.le_refl _⟩

/-- What is counted one after the other adds up. -/
theorem trans (first : Gains hits misses writes before between)
    (second : Gains hits' misses' writes' between after) :
    Gains (hits + hits') (misses + misses') (writes + writes') before after where
  hit := by rw [second.hit, first.hit, Nat.add_assoc]
  missed := by rw [second.missed, first.missed, Nat.add_assoc]
  written := by rw [second.written, first.written, Nat.add_assoc]
  undecoded := by
    obtain ⟨low₁, high₁⟩ := first.undecoded
    obtain ⟨low₂, high₂⟩ := second.undecoded
    exact ⟨Nat.le_trans low₁ low₂, by omega⟩

/-- If no more failures to decode than misses were counted before, then neither afterwards. -/
theorem decodeFailures_le (gains : Gains hits misses writes before after)
    (h : before.decodeFailures ≤ before.misses) : after.decodeFailures ≤ after.misses := by
  rw [gains.missed]
  exact Nat.le_trans gains.undecoded.2 (Nat.add_le_add_right h misses)

end CacheStats.Gains

/-- What is written for a node that exists is kept, in either kind of tier. -/
theorem Tier.exists_write {t : Tier} {d : Document} {id : NodeId} (found : d.contains id = true)
    (b : Bundle) : ∃ t' d', t.write d id b = .ok (t', d') := by
  cases t with
  | memory entries => exact ⟨_, _, rfl⟩
  | nodeData namespaceName key =>
    simp only [write, Document.setPluginValue, found, if_true]
    exact ⟨_, _, rfl⟩

namespace Store

variable {settings : Settings} {s : Store} {id : NodeId}

/-- A lookup counts as a hit if it finds a bundle, and else as a miss. -/
theorem lookup_gains (s : Store) (id : NodeId) :
    CacheStats.Gains (s.lookup id).found.isSome.toNat (s.lookup id).found.isNone.toNat 0 s.stats
      (s.lookup id).store.stats := by
  have promoted (s : Store) (b : Bundle) : (s.promote id b).1.stats = s.stats := by
    unfold promote
    split <;> rfl
  have durable : CacheStats.Gains (s.lookupDurable id).found.isSome.toNat
      (s.lookupDurable id).found.isNone.toNat 0 s.stats (s.lookupDurable id).store.stats := by
    unfold lookupDurable
    split
    · next b _ =>
      dsimp only
      rw [promoted]
      exact ⟨rfl, rfl, rfl, Nat.le_refl _, Nat.le_refl _⟩
    · exact ⟨rfl, rfl, rfl, Nat.le_refl _, Nat.le_succ _⟩
    · exact ⟨rfl, rfl, rfl, Nat.le_succ _, Nat.le_refl _⟩
  unfold lookup
  split
  · exact ⟨Nat.add_right_comm _ 1 _, rfl, rfl, Nat.le_refl _, Nat.le_refl _⟩
  · exact durable
  · exact durable

/-- Keeping a bundle for a node that exists counts as a write, even if the durable tier refuses it. -/
theorem keep_gains (found : s.document.contains id = true) (b : Bundle) :
    CacheStats.Gains 0 0 1 s.stats (s.keep id b).1.stats := by
  obtain ⟨volatile, document, written⟩ := Tier.exists_write (t := s.volatile) found b
  have one : CacheStats.Gains 0 0 1 s.stats { s.stats with writes := s.stats.writes + 1 } :=
    ⟨rfl, rfl, rfl, Nat.le_refl _, Nat.le_refl _⟩
  unfold keep
  rw [written]
  dsimp only
  split <;> exact one

/-- Compiling anew counts as a write if the component compiles. -/
theorem rebuild_gains (settings : Settings) (s : Store) (id : NodeId) :
    CacheStats.Gains 0 0 (compiledAnew (s.rebuild settings id).2.2).toNat s.stats
      (s.rebuild settings id).1.stats := by
  unfold rebuild
  split
  · exact .refl _
  · next b compiles =>
    obtain ⟨n, hn⟩ := Document.node?_of_compile (s := settings) (by rw [compiles])
    have kept := keep_gains (s := s) (by rw [Document.contains_eq_isSome, hn]; rfl) b
    split <;> next h =>
      rw [h] at kept
      exact kept

/-- Nothing that is compiled anew comes from the cache. -/
theorem fromCache_rebuild (s : Store) (id : NodeId) :
    fromCache (s.rebuild settings id).2.2 = false := by
  unfold rebuild
  split
  · rfl
  · split <;> rfl

/-- Serving a component counts as a hit if it comes from the cache and as a write if it is compiled. If the
cache is asked and does not have it, this counts as a miss. -/
theorem serve_gains (settings : Settings) (skipCache : Bool) (s : Store) (id : NodeId) :
    let result := (s.serve settings skipCache id).2.2
    CacheStats.Gains (fromCache result).toNat (if skipCache then 0 else (!fromCache result).toNat)
      (compiledAnew result).toNat s.stats (s.serve settings skipCache id).1.stats := by
  unfold serve
  dsimp only
  split
  · rw [fromCache_rebuild]
    exact rebuild_gains settings s id
  · have looked := lookup_gains s id
    split
    · next h =>
      rw [h] at looked
      exact looked
    · next store log h =>
      rw [h] at looked
      dsimp only
      rw [fromCache_rebuild]
      have both := looked.trans (rebuild_gains settings store id)
      rw [Nat.zero_add] at both
      exact both

end Store
end Handoff
