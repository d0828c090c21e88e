import Handoff.Proofs.Cache.Likeness
import Handoff.Proofs.Session.Gathering
import Handoff.Proofs.Session.Roster

/-!
# Failures are isolated

A target that fails leaves nothing in the tiers, so all that comes after it is served as if it had been no
target: the pass without it has the same other outcomes and ends with the same document and the same tiers.
Only the failure itself is counted; besides, the store may have counted other lookups.
-/

namespace Handoff

/-- The number of the pass and the bundle that an event reports. -/
def Event.built? : Event → Option (Nat × Bundle)
  | build pass _ b => some (pass, b)
  | _ => none

/-- The events of a pass are reports of it, one for every target that is served, in order. -/
theorem Session.built_compile (s : Session) (components targets : List NodeId) (skipCache : Bool) :
    (s.compile components targets skipCache).2.events.map Event.built? =
      ((s.outcomes components targets skipCache).filterMap (servedBundle? ·.2)).map
        fun b => some (s.pass + 1, b) := by
  have all (events : List Event) (h : ∀ e ∈ events, ∃ state b, e = .build (s.pass + 1) state b) :
      events.map Event.built? = (events.filterMap Event.bundle?).map fun b => some (s.pass + 1, b) := by
    induction events with
    | nil => rfl
    | cons e rest ih =>
      obtain ⟨state, b, rfl⟩ := h e List.mem_cons_self
      rw [List.map_cons, ih fun e he => h e (List.mem_cons_of_mem _ he)]
      rfl
  rw [all _ fun _ => mem_events_compile, reported_compile]

namespace PassState

variable {settings : Settings} {skipCache : Bool} {p p' : PassState} {id : NodeId}
  {before later targets : List NodeId} {e : CompileError}

/-! ## Like stores -/

/-- The store after a step is that after its target was served, unless the target is an icon. -/
theorem store_step (settings : Settings) (skipCache : Bool) (p : PassState) (id : NodeId) :
    (step settings skipCache p id).store =
      if p.store.document.isIcon id then p.store else (p.store.serve settings skipCache id).1 := by
  have goes := step_goes settings skipCache p id
  generalize step settings skipCache p id = next at goes ⊢
  cases goes with
  | icon hicon => rw [if_pos hicon]
  | served hicon h | failed hicon h =>
    rw [hicon, h]
    rfl

/-- From like stores, targets are served alike, and the stores stay alike. -/
theorem outcomes_of_alike (settings : Settings) (skipCache : Bool) (h : p.store.Alike p'.store)
    (targets : List NodeId) :
    p'.outcomes settings skipCache targets = p.outcomes settings skipCache targets ∧
      (targets.foldl (step settings skipCache) p).store.Alike
        (targets.foldl (step settings skipCache) p').store := by
  induction targets generalizing p p' with
  | nil => exact ⟨rfl, h⟩
  | cons id rest ih =>
    obtain ⟨result, served⟩ := h.serve settings skipCache id
    have next : (step settings skipCache p id).store.Alike (step settings skipCache p' id).store := by
      rw [store_step, store_step, h.document]
      split
      · exact h
      · exact served
    obtain ⟨same, final⟩ := ih next
    refine ⟨?_, final⟩
    rw [outcomes, outcomes, same, h.document, result]

/-! ## Leaving a failure out -/

/-- With a target that fails, the other targets are served as without it, and leave the same but for the
counts. -/
theorem outcomes_with_failure (p : PassState) (before later : List NodeId)
    (hicon : (before.foldl (step settings skipCache) p).store.document.isIcon id = false)
    (fails : ((before.foldl (step settings skipCache) p).store.serve settings skipCache id).2.2 =
      .error e) :
    p.outcomes settings skipCache (before ++ id :: later) =
        p.outcomes settings skipCache before ++
          (id, .error e) :: (before.foldl (step settings skipCache) p).outcomes settings skipCache later ∧
      ((before ++ later).foldl (step settings skipCache) p).store.Alike
        ((before ++ id :: later).foldl (step settings skipCache) p).store := by
  have unmoved : (before.foldl (step settings skipCache) p).store.Alike
      (step settings skipCache (before.foldl (step settings skipCache) p) id).store := by
    rw [store_step, hicon]
    exact Store.alike_of_serve_error fails
  obtain ⟨same, final⟩ := outcomes_of_alike settings skipCache unmoved later
  constructor
  · rw [outcomes_append, outcomes, same, hicon, fails]
    rfl
  · rw [List.foldl_append, List.foldl_append]
    exact final

end PassState

namespace Session

variable {s : Session} {namespaceName key : String} {m : OrderedMap Bundle} {d : Document}
  {components targets : List NodeId} {skipCache : Bool} {x : NodeId} {e : CompileError}

/-- Where a target fails, its failure stands among the outcomes of the pass without it, and the stores at the
end are alike. -/
theorem exists_split_of_failure (s : Session) (components : List NodeId) (distinct : targets.Nodup)
    (fails : (x, .error e) ∈ s.outcomes components targets skipCache) :
    ∃ first second,
      s.outcomes components targets skipCache = first ++ (x, .error e) :: second ∧
      s.outcomes components (targets.erase x) skipCache = first ++ second ∧
      (s.compile components (targets.erase x) skipCache).1.store.Alike
        (s.compile components targets skipCache).1.store := by
  obtain ⟨before, later, rfl, hicon, failure⟩ := PassState.exists_place_of_mem_outcomes fails
  have apart : x ∉ before := by
    rw [List.nodup_append] at distinct
    exact fun earlier => distinct.2.2 x earlier x List.mem_cons_self rfl
  have erased : (before ++ x :: later).erase x = before ++ later := by
    rw [List.erase_append_right _ apart, List.erase_cons_head]
  -- What is no target is added up when the pass begins, but both passes begin over the same store.
  have begun : (s.startPass components (before ++ later)).store.Alike
      (s.startPass components (before ++ x :: later)).store := .refl _
  obtain ⟨same, final⟩ := PassState.outcomes_of_alike s.settings skipCache begun (before ++ later)
  obtain ⟨whole, alike⟩ := PassState.outcomes_with_failure _ before later hicon failure
  rw [erased]
  exact ⟨_, _, whole, same.symm.trans (PassState.outcomes_append ..), final.trans alike⟩

/-- A pass leaves the components of the session alone that are no targets. -/
theorem compile_leaves (h : s.store.Over namespaceName key m d) (listed : x ∈ components)
    (other : x ∉ targets) (skipCache : Bool) :
    (s.compile components targets skipCache).1.store.volatile? x = s.store.volatile? x ∧
      (s.compile components targets skipCache).1.document.pluginValue? x namespaceName key =
        s.document.pluginValue? x namespaceName key := by
  obtain ⟨results, m', d', run, final, -, -⟩ := compile_run h components targets skipCache
  constructor
  · rw [Store.volatile?_of_over final, Store.volatile?_of_over h, run.get?_of_not_mem other,
      OrderedMap.get?_filterKeys, if_pos (List.contains_iff_mem.2 listed)]
  · rw [document, document, final.document, h.document]
    exact run.writesOnly.pluginValue?_eq (fun target => other target.1) namespaceName key

/-- Failures are isolated. Let a session over a table and the nodes of its document run a pass over any
components, with the cache or without, and let one of its different targets, which is among the components,
fail. Then this component has the same in the volatile tier and the same text on its node as before. The
pass without this target has the same outcomes of all other targets, in the same order. It counts the same
but for the failure, and both passes report what the other targets are served with and nothing else. Both
end with the same document and the same tiers. -/
theorem failure_isolated (s : Session) {entries : OrderedMap Bundle}
    (volatile : s.store.volatile = .memory entries)
    (durable : s.store.durable = .nodeData namespaceName key) (distinct : targets.Nodup)
    (listed : x ∈ components) (fails : (x, .error e) ∈ s.outcomes components targets skipCache) :
    let whole := s.compile components targets skipCache
    let rest := s.compile components (targets.erase x) skipCache
    whole.1.store.volatile? x = s.store.volatile? x ∧
      whole.1.document.pluginValue? x namespaceName key = s.document.pluginValue? x namespaceName key ∧
      (s.outcomes components targets skipCache).filter (·.1 ≠ x) =
        s.outcomes components (targets.erase x) skipCache ∧
      whole.2.result = { rest.2.result with failed := rest.2.result.failed + 1 } ∧
      whole.2.events.map Event.built? = rest.2.events.map Event.built? ∧
      rest.2.events.map Event.built? =
        ((s.outcomes components (targets.erase x) skipCache).filterMap (servedBundle? ·.2)).map
          (fun b => some (s.pass + 1, b)) ∧
      rest.1.store.Alike whole.1.store := by
  intro whole rest
  have hover : s.store.Over namespaceName key entries s.document := ⟨volatile, durable, rfl⟩
  -- Without the target the outcomes before and after its failure are the same.
  obtain ⟨first, second, with_failure, without, alike⟩ := exists_split_of_failure s components distinct fails
  obtain ⟨table, node⟩ := compile_leaves hover listed distinct.not_mem_erase skipCache
  refine ⟨(alike.volatile?_eq x).trans table, ?_, ?_, ?_, ?_, built_compile .., alike⟩
  · rw [document, alike.document]
    exact node
  · have others : ∀ y ∈ first ++ second, decide (y.1 ≠ x) = true := by
      rw [← without]
      exact fun y hy => decide_eq_true fun own =>
        distinct.not_mem_erase (own ▸ PassState.mem_of_mem_outcomes hy)
    rw [with_failure, without, List.filter_append, List.filter_cons_of_neg (by simp), ← List.filter_append,
      List.filter_eq_self.2 others]
  · simp only [whole, rest, summary_compile, with_failure, without, List.countP_append, List.countP_cons,
      compiledAnew, fromCache, hasFailed, Bool.false_eq_true, if_false, if_true, Nat.add_zero, Nat.add_assoc]
  · rw [built_compile, built_compile, with_failure, without]
    simp [servedBundle?]

/-- In the session whose second component is broken, this component fails first, and its bundle stays. -/
theorem failure_isolated_brokenSession :
    let whole := brokenSession.compile ["a", "b"] ["b", "a"] true
    let rest := brokenSession.compile ["a", "b"] ["a"] true
    whole.1.store.volatile? "b" = brokenSession.store.volatile? "b" ∧
      (brokenSession.store.volatile? "b").isSome ∧
      whole.2.result.failed = 1 ∧ whole.2.events.length = 1 ∧
      whole.2.events.map Event.built? = rest.2.events.map Event.built? ∧
      rest.1.store.Alike whole.1.store := by
  intro whole rest
  obtain ⟨m, _, loaded, -, -⟩ := load_serves (start_over {} (markedPair []))
  have second : ((brokenSession.outcomes ["a", "b"] ["b", "a"] true).map fun x => (x.1, hasFailed x.2)) =
      [("b", true), ("a", false)] := by decide +kernel
  obtain ⟨⟨_, result⟩, others, outcomes, first, -⟩ := List.map_eq_cons_iff.1 second
  cases result with
  | ok => cases first
  | error e =>
    cases first
    have fails : ("b", .error e) ∈ brokenSession.outcomes ["a", "b"] ["b", "a"] true := by
      rw [outcomes]
      exact List.mem_cons_self
    obtain ⟨table, -, -, counts, events, -, alike⟩ := failure_isolated brokenSession loaded.volatile
      loaded.durable (by decide) (by decide) fails
    refine ⟨table, by decide +kernel, ?_, by decide +kernel, events, alike⟩
    have alone : rest.2.result.failed = 0 := by decide +kernel
    rw [counts]
    exact congrArg (· + 1) alone

end Session
end Handoff
