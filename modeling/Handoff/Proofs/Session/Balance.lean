import Handoff.Proofs.Cache.Counting
import Handoff.Proofs.Session.Repetition

/-!
# The accounts of a pass

A pass counts its targets by how they are served, and meanwhile the cache counts what happens to it. The two
accounts balance: what came from the cache was hit there, what was compiled was written, and every other
lookup was a miss. They do so over any tiers, whatever bundles these have and whatever was counted before.
-/

namespace Handoff

/-! ## Counting outcomes -/

section

variable (outcomes : List (NodeId × Except CompileError Outcome))

/-- Every outcome is compiled anew, from the cache, or a failure. -/
theorem countP_add_countP_eq_length :
    outcomes.countP (compiledAnew ·.2) + outcomes.countP (fromCache ·.2) +
      outcomes.countP (hasFailed ·.2) = outcomes.length := by
  induction outcomes with
  | nil => rfl
  | cons x rest ih =>
    obtain ⟨id, result⟩ := x
    simp only [List.countP_cons, List.length_cons, ← ih]
    cases result with
    | error e =>
      simp only [compiledAnew, fromCache, hasFailed, if_true, Bool.false_eq_true, if_false]
      omega
    | ok o =>
      obtain ⟨b, cached⟩ := o
      cases cached <;>
        · simp only [compiledAnew, fromCache, hasFailed, Bool.not_true, Bool.not_false, if_true,
            Bool.false_eq_true, if_false]
          omega

/-- What does not come from the cache is compiled anew, or a failure. -/
theorem countP_not_fromCache :
    outcomes.countP (!fromCache ·.2) =
      outcomes.countP (compiledAnew ·.2) + outcomes.countP (hasFailed ·.2) := by
  have all := countP_add_countP_eq_length outcomes
  have split := List.length_eq_countP_add_countP (fun x => fromCache x.2) (l := outcomes)
  simp only [Bool.not_eq_true, Bool.decide_eq_false] at split
  omega

/-- The bundles that are served are compiled anew or from the cache. -/
theorem length_filterMap_servedBundle? :
    (outcomes.filterMap (servedBundle? ·.2)).length =
      outcomes.countP (compiledAnew ·.2) + outcomes.countP (fromCache ·.2) := by
  have all := countP_add_countP_eq_length outcomes
  have served := length_servedBundle?_add_hasFailed outcomes
  omega

end

/-! ## Counting along a pass -/

/-- Serving targets one after the other counts as a hit each that comes from the cache, as a write each that
is compiled, and as a miss each that the cache is asked for and does not have. -/
theorem PassState.foldl_step_gains (settings : Settings) (skipCache : Bool) (p : PassState)
    (targets : List NodeId) :
    let outcomes := p.outcomes settings skipCache targets
    CacheStats.Gains (outcomes.countP (fromCache ·.2))
      (if skipCache then 0 else outcomes.countP (!fromCache ·.2)) (outcomes.countP (compiledAnew ·.2))
      p.store.stats (targets.foldl (step settings skipCache) p).store.stats := by
  induction targets generalizing p with
  | nil =>
    have nothing := CacheStats.Gains.refl p.store.stats
    cases skipCache <;> exact nothing
  | cons id rest ih =>
    have later := ih (step settings skipCache p id)
    have store := store_step settings skipCache p id
    rw [List.foldl_cons, outcomes]
    by_cases hicon : p.store.document.isIcon id = true
    · rw [if_pos hicon] at store ⊢
      rw [store] at later
      exact later
    · rw [if_neg hicon] at store ⊢
      rw [store] at later
      have both := (Store.serve_gains settings skipCache p.store id).trans later
      simp only [List.countP_cons]
      cases skipCache <;> simpa [Nat.add_comm, Bool.toNat, Bool.cond_eq_ite] using both

/-! ## Sessions -/

/-- A target that is no icon has a node, and this is named like no icon. -/
theorem Document.not_isIcon_eq_any (d : Document) (id : NodeId) :
    (!d.isIcon id) = (d.node? id).any fun n => !Text.isIconName n.name := by
  rw [isIcon]
  cases d.node? id <;> rfl

namespace Session

variable {s : Session}

/-- What a session counts in a pass. -/
theorem compile_gains (s : Session) (components targets : List NodeId) (skipCache : Bool) :
    let outcomes := s.outcomes components targets skipCache
    CacheStats.Gains (outcomes.countP (fromCache ·.2))
      (if skipCache then 0 else outcomes.countP (!fromCache ·.2)) (outcomes.countP (compiledAnew ·.2))
      s.store.stats (s.compile components targets skipCache).1.store.stats :=
  PassState.foldl_step_gains s.settings skipCache (s.startPass components targets) targets

/-- The sessions that come of a start: they serve components, run passes, and go over to other documents.
Loading, following changes and reloading are made of these. -/
inductive Started : Session → Prop where
  | start (settings : Settings) (d : Document) : Started (Session.start settings d)
  | compileComponent {s : Session} (id : NodeId) (skipCache : Bool) :
    Started s → Started (s.compileComponent id skipCache).1
  | compile {s : Session} (components targets : List NodeId) (skipCache : Bool) :
    Started s → Started (s.compile components targets skipCache).1
  | withDocument {s : Session} (d : Document) : Started s → Started (s.withDocument d)

/-- A session that comes of a start has counted no more failures to decode than misses. -/
theorem Started.decodeFailures_le (h : s.Started) :
    s.store.stats.decodeFailures ≤ s.store.stats.misses := by
  induction h with
  | start => exact Nat.le_refl 0
  | @compileComponent s id skipCache _ ih =>
    exact (Store.serve_gains s.settings skipCache s.store id).decodeFailures_le ih
  | @compile s components targets skipCache _ ih =>
    exact (s.compile_gains components targets skipCache).decodeFailures_le ih
  | withDocument d _ ih => exact ih

/-- Passes balance. In a pass of any session, over any components, with the cache or without, and with
some of the components as targets or all of them, the outcomes are those of the targets whose node exists
and is named like no icon, in order, and each of them is compiled, comes from the cache, or fails. The
pass has the next number, and its events report, with this number and in order, what is compiled or comes
from the cache. The cache counts a hit for every target that comes from it and a write for every one that is
compiled; if it is asked, it counts a miss for each that is compiled or fails, and else no miss. The
failures to decode that it counts are among the misses. -/
theorem pass_balances (s : Session) (components : List NodeId) (updated : Option (List NodeId))
    (skipCache : Bool) :
    let targets := updated.getD components
    let named := targets.filter fun id => (s.document.node? id).any fun n => !Text.isIconName n.name
    let outcomes := s.outcomes components targets skipCache
    let after := (s.compile components targets skipCache).1
    let report := (s.compile components targets skipCache).2
    let summary := report.result
    outcomes.map Prod.fst = named ∧
      summary.compiled + summary.cached + summary.failed = named.length ∧
      summary.pass = s.pass + 1 ∧ after.pass = s.pass + 1 ∧
      report.events.map Event.built? =
        (outcomes.filterMap (servedBundle? ·.2)).map (fun b => some (s.pass + 1, b)) ∧
      report.events.length = summary.compiled + summary.cached ∧
      after.store.stats.memoryHits + after.store.stats.durableHits =
        s.store.stats.memoryHits + s.store.stats.durableHits + summary.cached ∧
      after.store.stats.writes = s.store.stats.writes + summary.compiled ∧
      after.store.stats.misses =
        s.store.stats.misses + (if skipCache then 0 else summary.compiled + summary.failed) ∧
      s.store.stats.decodeFailures ≤ after.store.stats.decodeFailures ∧
      after.store.stats.decodeFailures - s.store.stats.decodeFailures ≤
        after.store.stats.misses - s.store.stats.misses ∧
      (s.Started → after.store.stats.decodeFailures ≤ after.store.stats.misses) := by
  intro targets named outcomes after report summary
  have result := s.summary_compile components targets skipCache
  have compiled : summary.compiled = outcomes.countP (compiledAnew ·.2) := congrArg (·.compiled) result
  have cached : summary.cached = outcomes.countP (fromCache ·.2) := congrArg (·.cached) result
  have failed : summary.failed = outcomes.countP (hasFailed ·.2) := congrArg (·.failed) result
  have served : outcomes.map Prod.fst = named := by
    refine (PassState.map_fst_outcomes ..).trans (List.filter_congr fun id _ => ?_)
    exact Document.not_isIcon_eq_any s.document id
  have all : summary.compiled + summary.cached + summary.failed = named.length := by
    rw [compiled, cached, failed, ← served, List.length_map]
    exact countP_add_countP_eq_length outcomes
  have events : report.events.map Event.built? =
      (outcomes.filterMap (servedBundle? ·.2)).map fun b => some (s.pass + 1, b) := built_compile ..
  have length : report.events.length = summary.compiled + summary.cached := by
    rw [← List.length_map Event.built?, events, List.length_map, length_filterMap_servedBundle?, compiled,
      cached]
  have gains : CacheStats.Gains summary.cached (if skipCache then 0 else summary.compiled + summary.failed)
      summary.compiled s.store.stats after.store.stats := by
    rw [cached, compiled, failed, ← countP_not_fromCache]
    exact s.compile_gains components targets skipCache
  refine ⟨served, all, congrArg (·.pass) result, rfl, events, length, gains.hit, gains.written, gains.missed,
    gains.undecoded.1, ?_, fun started => (started.compile components targets skipCache).decodeFailures_le⟩
  have bound := gains.undecoded.2
  rw [gains.missed]
  omega

/-- One component is remembered, one has a bundle on its node, one has a text there that is no bundle, and
one does not compile. A target that is no node counts for nothing. -/
theorem pass_balances_patchySession :
    let components := patchyDocument.discover.elems
    let updated := some ["e", "b", "gone", "c", "a"]
    let after := (patchySession.compile components (updated.getD components) false).1
    let report := (patchySession.compile components (updated.getD components) false).2
    report.result = { pass := 1, total := 4, compiled := 1, cached := 2, failed := 1 } ∧
      report.events.length = 3 ∧
      after.store.stats = { memoryHits := 1, durableHits := 1, misses := 3, decodeFailures := 1, writes := 2 } ∧
      after.store.stats.decodeFailures ≤ after.store.stats.misses := by
  intro components updated after report
  have started : patchySession.Started := .compileComponent "a" false (.start {} patchyDocument)
  obtain ⟨-, -, -, -, -, events, -, -, -, -, -, bound⟩ :=
    pass_balances patchySession components updated false
  -- One evaluation of the pass yields both.
  obtain ⟨summary, stats⟩ : report.result = { pass := 1, total := 4, compiled := 1, cached := 2, failed := 1 } ∧
      after.store.stats =
        { memoryHits := 1, durableHits := 1, misses := 3, decodeFailures := 1, writes := 2 } := by
    decide +kernel
  have bound := bound started
  refine ⟨summary, ?_, stats, ?_⟩
  · simp only [report] at summary ⊢
    rw [events, summary]
    rfl
  · simp only [after]
    with_reducible exact bound

end Session
end Handoff
