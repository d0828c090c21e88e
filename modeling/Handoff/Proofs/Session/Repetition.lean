import Handoff.Proofs.Session.Isolation
import Handoff.Proofs.Session.Provenance

/-!
# Cached passes over again

After a pass with the cache, the volatile tier has the bundle of every target that was served. A target that
failed has left nothing, so it is still found in neither tier and still fails to compile. Hence the same
pass over again finds every bundle in the volatile tier, counts the same failures, and changes nothing.
-/

namespace Handoff

/-- How a component is served over again: what was handed out comes from the cache. -/
def again (result : Except CompileError Outcome) : Except CompileError Outcome :=
  result.map fun o => { o with cached := true }

section Again

variable (result : Except CompileError Outcome)

@[simp] theorem servedBundle?_again : servedBundle? (again result) = servedBundle? result := by
  cases result <;> rfl

@[simp] theorem compiledAnew_again : compiledAnew (again result) = false := by
  cases result <;> rfl

@[simp] theorem fromCache_again : fromCache (again result) = !hasFailed result := by
  cases result <;> rfl

@[simp] theorem hasFailed_again : hasFailed (again result) = hasFailed result := by
  cases result <;> rfl

end Again

/-- What has not failed was compiled or came from the cache. -/
theorem countP_not_hasFailed (outcomes : List (NodeId × Except CompileError Outcome)) :
    outcomes.countP (!hasFailed ·.2) =
      outcomes.countP (compiledAnew ·.2) + outcomes.countP (fromCache ·.2) := by
  induction outcomes with
  | nil => rfl
  | cons x rest ih =>
    rw [List.countP_cons, List.countP_cons, List.countP_cons, ih]
    have one : (if (!hasFailed x.2) = true then 1 else 0) =
        (if compiledAnew x.2 = true then 1 else 0) + if fromCache x.2 = true then 1 else 0 := by
      obtain ⟨id, e | ⟨b, hit⟩⟩ := x
      · rfl
      · cases hit <;> rfl
    omega

variable {settings : Settings} {namespaceName key : String} {id : NodeId} {m m' : OrderedMap Bundle}
  {d d' : Document} {result : Except CompileError Outcome} {targets : List NodeId}

/-! ## What a pass with the cache settles -/

/-- Whether a table and a document settle how a component is served: the table has the bundle, or nothing is
found of the component and it fails to compile. -/
def Settled (settings : Settings) (namespaceName key : String) (m : OrderedMap Bundle) (d : Document)
    (id : NodeId) : Except CompileError Outcome → Prop
  | .ok o => m.get? id = some o.bundle
  | .error e => m.get? id = none ∧ (∀ b, d.kept namespaceName key id ≠ .ok (some b)) ∧
      (d.compile settings id).2 = .error e

/-- What is settled depends on what the table and the node have for the component, and on the document but
for plugin data. -/
theorem Settled.congr (h : Settled settings namespaceName key m d id result)
    (table : m'.get? id = m.get? id) (same : d'.bare = d.bare)
    (node : d'.kept namespaceName key id = d.kept namespaceName key id) :
    Settled settings namespaceName key m' d' id result := by
  cases result with
  | ok o => exact table.trans h
  | error e =>
    obtain ⟨unknown, unkept, fails⟩ := h
    exact ⟨table.trans unknown, fun b => node ▸ unkept b,
      (congrArg Prod.snd (Document.compile_of_bare_eq same settings id)).trans fails⟩

/-- Serving a component with the cache settles how it is served. -/
theorem Served.settled {s : Store} (h : s.Over namespaceName key m d)
    (answer : (s.serve settings false id).2.2 = result)
    (served : Served settings namespaceName key false id m d m' d' result) :
    Settled settings namespaceName key m' d' id result := by
  cases served with
  | remembered _ found => exact found
  | promoted | compiled => exact (OrderedMap.get?_insert ..).trans (if_pos rfl)
  | failed fails =>
    rw [Store.result_serve h] at answer
    split at answer
    · cases answer
    · cases answer
    · next unknown unkept => exact ⟨unknown, unkept, fails⟩

/-- A component for which it is settled how it is served is served so over again, and the store stays as it
is but for the counts. -/
theorem Settled.serve {s : Store} (h : s.Over namespaceName key m d)
    (settled : Settled settings namespaceName key m d id result) :
    (s.serve settings false id).2.2 = again result ∧ s.Alike (s.serve settings false id).1 := by
  cases result with
  | ok o => exact Store.serve_of_volatile? ((Store.volatile?_of_over h id).trans settled)
  | error e =>
    obtain ⟨unknown, unkept, fails⟩ := settled
    have answer : (s.serve settings false id).2.2 = .error e := by
      rw [Store.result_serve h, unknown, fails]
      split
      · next found => cases found
      · next kept => exact absurd kept (unkept _)
      · rfl
    exact ⟨answer, Store.alike_of_serve_error answer⟩

namespace PassState

variable {p : PassState}

/-- After a pass with the cache over different targets it is settled how each of them is served. -/
theorem settled_outcomes (h : p.store.Over namespaceName key m d) (distinct : targets.Nodup)
    (final : (targets.foldl (step settings false) p).store.Over namespaceName key m' d') :
    ∀ x ∈ p.outcomes settings false targets, Settled settings namespaceName key m' d' x.1 x.2 := by
  intro x hx
  obtain ⟨s, _, _, m₁, m₂, m'', d₁, d₂, d'', -, hover, answer, served, hover₂, bare, table, node⟩ :=
    exists_served h distinct hx
  obtain rfl : m'' = m' := Tier.memory.inj (hover₂.volatile.symm.trans final.volatile)
  obtain rfl : d'' = d' := hover₂.document.symm.trans final.document
  exact (served.settled hover answer).congr table bare node

/-- Targets for which it is settled how they are served are served so over again, and the store stays as it
is but for the counts. -/
theorem outcomes_of_settled (h : p.store.Over namespaceName key m d)
    {outcomes : List (NodeId × Except CompileError Outcome)}
    (listed : outcomes.map Prod.fst = targets.filter (!d.isIcon ·))
    (settled : ∀ x ∈ outcomes, Settled settings namespaceName key m d x.1 x.2) :
    p.outcomes settings false targets = outcomes.map (fun x => (x.1, again x.2)) ∧
      p.store.Alike (targets.foldl (step settings false) p).store := by
  induction targets generalizing p outcomes with
  | nil =>
    cases List.map_eq_nil_iff.1 listed
    exact ⟨rfl, .refl _⟩
  | cons id rest ih =>
    rw [List.foldl_cons, PassState.outcomes, h.document]
    by_cases hicon : d.isIcon id = true
    · rw [List.filter_cons_of_neg (by simp [hicon])] at listed
      rw [if_pos hicon, step_of_isIcon h hicon]
      exact ih h listed settled
    · rw [List.filter_cons_of_pos (by simp [hicon])] at listed
      obtain ⟨⟨id, result⟩, others, rfl, rfl, remaining⟩ := List.map_eq_cons_iff.1 listed
      obtain ⟨answer, alike⟩ := (settled _ List.mem_cons_self).serve h
      have next : p.store.Alike (step settings false p id).store := by
        rw [store_step, h.document, if_neg hicon]
        exact alike
      obtain ⟨same, final⟩ :=
        ih (next.tiers h) remaining fun x hx => settled x (List.mem_cons_of_mem _ hx)
      rw [if_neg hicon, answer, same]
      exact ⟨rfl, next.trans final⟩

end PassState

namespace Session

section Pass

variable {s : Session} (h : s.store.Over namespaceName key m d) (components : OrderedSet NodeId)
include h

/-- A pass with the cache over all of its components serves them over again, if it is made twice, and then
leaves its store as it is but for the counts. -/
theorem compile_again :
    let first := (s.compile components.elems components.elems false).1
    first.outcomes components.elems components.elems false =
        (s.outcomes components.elems components.elems false).map (fun x => (x.1, again x.2)) ∧
      (first.store.prune components.elems).Alike
        (first.compile components.elems components.elems false).1.store := by
  intro first
  have begun := startPass_over h components.elems components.elems
  obtain ⟨m₁, d₁, run, hover⟩ :=
    PassState.foldl_step_run s.settings false (s.startPass components.elems components.elems) begun
      components.elems
  have listed : (s.outcomes components.elems components.elems false).map Prod.fst =
      components.elems.filter (!d₁.isIcon ·) := by
    have document : (s.startPass components.elems components.elems).store.document = d := h.document
    rw [outcomes, PassState.map_fst_outcomes, document, Document.not_isIcon_of_bare_eq run.bare_eq]
  -- The second pass prunes what the first one has left, and this concerns no target.
  have settled : ∀ x ∈ s.outcomes components.elems components.elems false,
      Settled s.settings namespaceName key (m₁.filterKeys (components.elems.contains ·)) d₁ x.1 x.2 := by
    intro x hx
    refine (PassState.settled_outcomes begun components.nodup hover x hx).congr ?_ rfl rfl
    rw [OrderedMap.get?_filterKeys, if_pos (List.contains_iff_mem.2 (PassState.mem_of_mem_outcomes hx))]
  exact PassState.outcomes_of_settled (prune_over hover components.elems) listed settled

/-- After a pass over all of its components the volatile tier has what it keeps when it is pruned to them. -/
theorem volatile?_prune_compile (skipCache : Bool) (id : NodeId) :
    let first := (s.compile components.elems components.elems skipCache).1
    (first.store.prune components.elems).volatile? id = first.store.volatile? id := by
  intro first
  obtain ⟨results, m₁, d₁, run, hover, -, -⟩ := compile_run h components.elems components.elems skipCache
  rw [Store.volatile?_of_over hover, Store.volatile?_of_over (prune_over hover _), OrderedMap.get?_filterKeys]
  split
  · rfl
  · next other =>
    have untouched := run.get?_of_not_mem fun target => other (List.contains_iff_mem.2 target)
    rw [untouched, OrderedMap.get?_filterKeys, if_neg other]

end Pass

/-- A pass with the cache over all of its components, made over again, changes nothing. Let a session over a
table and the nodes of its document make the same pass with the cache twice. Whatever the tiers have at
first, the second pass serves the same components in the same order, with the same bundles and all of them
from the cache, and the same components fail for the same reasons. So it compiles nothing, counts as cached
what was compiled or cached before, counts the same failures, and reports the same bundles under the next
number. The document and what the volatile tier has for any component stay as they are. -/
theorem cached_pass_repeats (s : Session) {entries : OrderedMap Bundle}
    (volatile : s.store.volatile = .memory entries)
    (durable : s.store.durable = .nodeData namespaceName key) (components : OrderedSet NodeId) :
    let first := s.compile components.elems components.elems false
    let second := first.1.compile components.elems components.elems false
    first.1.outcomes components.elems components.elems false =
        (s.outcomes components.elems components.elems false).map (fun x => (x.1, again x.2)) ∧
      second.2.result =
        { first.2.result with
          pass := first.2.result.pass + 1
          compiled := 0
          cached := first.2.result.compiled + first.2.result.cached } ∧
      second.2.events.map Event.built? =
        first.2.events.map (fun e => e.built?.map fun r => (r.1 + 1, r.2)) ∧
      second.1.document = first.1.document ∧
      ∀ id, second.1.store.volatile? id = first.1.store.volatile? id := by
  intro first second
  have start : s.store.Over namespaceName key entries s.document := ⟨volatile, durable, rfl⟩
  obtain ⟨outcomes, alike⟩ := compile_again start components
  replace outcomes : first.1.outcomes components.elems components.elems false = _ := outcomes
  refine ⟨outcomes, ?_, ?_, alike.document, fun id =>
    (alike.volatile?_eq id).trans (volatile?_prune_compile start components false id)⟩
  · -- The roster depends on the document without plugin data, and a pass changes nothing else.
    have names : first.1.document.listed components.elems = s.document.listed components.elems :=
      Document.listed_of_bare_eq (bare_compile ..) _
    rw [summary_compile, names, outcomes, List.countP_map, List.countP_map, List.countP_map]
    simp only [Function.comp_def, compiledAnew_again, fromCache_again, hasFailed_again, countP_not_hasFailed,
      List.countP_false, first, summary_compile]
    rfl
  · calc second.2.events.map Event.built?
        = ((first.1.outcomes components.elems components.elems false).filterMap (servedBundle? ·.2)).map
            (fun b => some (s.pass + 1 + 1, b)) := built_compile ..
      _ = ((s.outcomes components.elems components.elems false).filterMap (servedBundle? ·.2)).map
            (fun b => some (s.pass + 1 + 1, b)) := by
          simp only [outcomes, List.filterMap_map, Function.comp_def, servedBundle?_again]
      _ = (first.2.events.map Event.built?).map (Option.map fun r => (r.1 + 1, r.2)) := by
          rw [built_compile, List.map_map]
          rfl
      _ = first.2.events.map fun e => e.built?.map fun r => (r.1 + 1, r.2) := List.map_map

/-- Four components: one without anything on its node, one with a bundle, one with a text that is no
bundle, and one that does not compile. -/
def patchyDocument : Document :=
  .filed
    [{ id := "a", name := "One", kind := .component },
      { id := "b", name := "Two", kind := .component, pluginData := holding (strayBundle "b") },
      { id := "c", name := "Three", kind := .component
        pluginData := SortedMap.empty.insert "scenec" (SortedMap.empty.insert "data" "torn") },
      { id := "e", name := "Four", kind := .component, children := ["i"] },
      { id := "i", name := "Broken", kind := .componentInstance, mainComponent := some "gone" }]

/-- A session that has served the first one. -/
def patchySession : Session := ((Session.start {} patchyDocument).compileComponent "a" false).1

/-- The first pass finds one bundle in each tier, compiles one component, and fails for one; the second one
finds three bundles and fails for the same component. -/
theorem cached_pass_repeats_patchySession :
    let components := patchyDocument.discover
    let first := patchySession.compile components.elems components.elems false
    let second := first.1.compile components.elems components.elems false
    first.2.result = { pass := 1, total := 4, compiled := 1, cached := 2, failed := 1 } ∧
      second.2.result = { pass := 2, total := 4, compiled := 0, cached := 3, failed := 1 } ∧
      second.1.document = first.1.document := by
  intro components
  obtain ⟨m, d, hover, -⟩ := Store.serve_served {} false "a" (start_over {} patchyDocument)
  have summary : (patchySession.compile components.elems components.elems false).2.result =
      { pass := 1, total := 4, compiled := 1, cached := 2, failed := 1 } := by decide +kernel
  obtain ⟨-, counts, -, document, -⟩ :=
    cached_pass_repeats patchySession hover.volatile hover.durable components
  rw [summary] at counts
  exact ⟨summary, counts, document⟩

end Session
end Handoff
