import Handoff.Proofs.Session.Containment
import Handoff.Proofs.Session.Icons
import Handoff.Proofs.Session.Progress

/-!
# The figures of a compiled document

Every pass over a document counts the names that the roster begins with, and every report shows this number
and the index of the roster. But the figures of the output are those of the last report. So they are right as
soon as one component is served, and they are blank if none is, though the components and their failures
have been counted.
-/

namespace Handoff

variable {settings : Settings} {skipCache : Bool} {d : Document}

/-! ## The passes of a compiled document -/

namespace Session

/-- Loading yields the summaries of its passes. -/
theorem result_load (s : Session) : s.load.2.result = (s.passesOf .load).map Pass.summary := by
  simp only [passesOf, load]
  split
  · rfl
  · split <;> rfl

end Session

/-- The passes in which a document is compiled. -/
def compilingPasses (settings : Settings) (d : Document) (skipCache : Bool) : List Pass :=
  let components := d.discover.elems
  let s := Session.start settings d
  if !skipCache then s.passesOf .load
  else if components.isEmpty then []
  else s.passesOf (.compile components components true)

/-- A document is compiled in these passes, after which the theme is reported. -/
theorem compileDocument_passes (settings : Settings) (d : Document) (skipCache : Bool) :
    (compileDocument settings d skipCache).2.result.summaries =
        (compilingPasses settings d skipCache).map Pass.summary ∧
      ∃ code current, (compileDocument settings d skipCache).2.events =
        (compilingPasses settings d skipCache).flatMap Pass.events ++ [.theme code current] := by
  let s := Session.start settings d
  cases skipCache with
  | false =>
    exact ⟨s.result_load, _, _, congrArg (· ++ [_]) (s.eventsOf_eq .load)⟩
  | true =>
    by_cases empty : d.discover.elems = []
    · have none := Session.recompile_of_empty (s := s) empty
      have passes : compilingPasses settings d true = [] := by simp [compilingPasses, empty]
      rw [passes]
      exact ⟨congrArg (·.2.result) none, _, _, congrArg (· ++ [_]) (congrArg (·.2.events) none)⟩
    · obtain ⟨result, events⟩ := Session.recompile_of_nonempty (s := s) empty
      have passes : compilingPasses settings d true =
          s.passesOf (.compile d.discover.elems d.discover.elems true) := by simp [compilingPasses, empty, s]
      rw [passes, ← s.eventsOf_eq]
      exact ⟨result, _, _, congrArg (· ++ [_]) events⟩

/-- They go over all components with the settings, and over the document but for plugin data. -/
theorem listed_of_mem_compilingPasses {r : Pass} (h : r ∈ compilingPasses settings d skipCache) :
    r.session.settings = settings ∧ r.listed = d.listed d.discover.elems := by
  have common {a : Activity} (mem : r ∈ (Session.start settings d).passesOf a)
      (components : r.components = d.discover.elems) :
      r.session.settings = settings ∧ r.listed = d.listed d.discover.elems := by
    have pass := Session.hasPass_of_mem mem
    refine ⟨pass.settings, ?_⟩
    rw [Pass.listed, components]
    exact Document.listed_of_bare_eq pass.document _
  unfold compilingPasses at h
  dsimp only at h
  split at h
  · refine common h ?_
    rcases (Session.start settings d).passesOf_load with none | ⟨one, -⟩ | both
    · rw [none] at h
      cases h
    · rw [one] at h
      cases List.mem_singleton.1 h
      rfl
    · rw [both] at h
      rcases List.mem_cons.1 h with rfl | h
      · rfl
      · cases List.mem_singleton.1 h
        rfl
  · split at h
    · cases h
    · refine common h ?_
      cases List.mem_singleton.1 h
      rfl

/-! ## What is reported -/

/-- Whether a component of a document compiles, or has a bundle on its node that is asked for. -/
def Document.Yields (d : Document) (settings : Settings) (skipCache : Bool) : Prop :=
  d.freshBundles settings ≠ [] ∨
    skipCache = false ∧ d.keptBundles settings.cache.namespaceName settings.cache.key ≠ []

/-- Compiling a document reports a component unless none yields a bundle. -/
theorem reported_eq_nil_iff : (compileDocument settings d skipCache).2.events.filterMap Event.bundle? = [] ↔
    ¬ d.Yields settings skipCache := by
  rw [reported_compileDocument]
  cases skipCache with
  | true => simp [Document.Yields]
  | false =>
    have none : d.discover.elems.filterMap
          (d.firstBundle? settings settings.cache.namespaceName settings.cache.key) = [] ↔
        d.freshBundles settings = [] ∧
          d.keptBundles settings.cache.namespaceName settings.cache.key = [] := by
      rw [Document.freshBundles, Document.filter_discover, Document.keptBundles, List.filterMap_eq_nil_iff,
        List.filterMap_eq_nil_iff, List.filterMap_eq_nil_iff, ← forall₂_and]
      refine forall₂_congr fun id _ => ?_
      rw [Document.firstBundle?, Option.or_eq_none_iff, and_comm]
    have yields : ¬ d.Yields settings false ↔ d.freshBundles settings = [] ∧
        d.keptBundles settings.cache.namespaceName settings.cache.key = [] := by
      rw [Document.Yields, not_or, not_not, not_and, not_not]
      exact and_congr_right fun _ => ⟨fun h => h rfl, fun h _ => h⟩
    rw [if_neg Bool.false_ne_true, yields]
    rcases Session.reported_load settings d with ⟨first, -⟩ | both
    · rw [first, none]
    · rw [both, List.append_eq_nil_iff, none, and_iff_left_of_imp And.left]

/-- All events of a compiled document that report a bundle show a state with it. -/
theorem states_eq_nil_iff (events : List Event) :
    events.filterMap Event.state? = [] ↔ events.filterMap Event.bundle? = [] := by
  rw [List.filterMap_eq_nil_iff, List.filterMap_eq_nil_iff]
  refine forall₂_congr fun e _ => ?_
  cases e <;> simp [Event.state?, Event.bundle?]

/-- If a component yields a bundle, the output has the number of names in the roster, and the index of the
roster. -/
theorem state_of_yields (h : d.Yields settings skipCache) :
    let names := (d.listed d.discover.elems).map Prod.fst
    (compileDocument settings d skipCache).2.result.state.total = names.dedup.length ∧
      (compileDocument settings d skipCache).2.result.state.index = indexText settings names := by
  intro names
  obtain ⟨-, code, current, events⟩ := compileDocument_passes settings d skipCache
  rw [state_compileDocument]
  cases shown : ((compileDocument settings d skipCache).2.events.filterMap Event.state?).getLast? with
  | none =>
    rw [List.getLast?_eq_none_iff, states_eq_nil_iff, reported_eq_nil_iff] at shown
    exact absurd h shown
  | some state =>
    obtain ⟨e, he, found⟩ := List.mem_filterMap.1 (List.mem_of_getLast? shown)
    rw [events] at he
    rcases List.mem_append.1 he with he | he
    · obtain ⟨r, hr, he⟩ := List.mem_flatMap.1 he
      obtain ⟨before, later, split⟩ := List.append_of_mem he
      obtain ⟨own, listed⟩ := listed_of_mem_compilingPasses hr
      cases e with
      | build n state' b =>
        cases found
        have total := Pass.total_report split
        have index := Pass.index_report split
        rw [listed] at total
        rw [listed, own] at index
        exact ⟨total, index⟩
      | theme | notice => cases found
    · cases List.mem_singleton.1 he
      cases found

/-- If no component yields a bundle, the output has a blank state. -/
theorem state_of_not_yields (h : ¬ d.Yields settings skipCache) :
    (compileDocument settings d skipCache).2.result.state = {} := by
  rw [state_compileDocument, (states_eq_nil_iff _).2 (reported_eq_nil_iff.2 h)]
  rfl

/-! ## Figures -/

/-- Every summary counts the names that are listed. -/
theorem total_of_summary {s : PassSummary}
    (h : s ∈ (compileDocument settings d skipCache).2.result.summaries) :
    s.total = ((d.listed d.discover.elems).map Prod.fst).dedup.length := by
  rw [(compileDocument_passes settings d skipCache).1] at h
  obtain ⟨r, hr, rfl⟩ := List.mem_map.1 h
  rw [Pass.summary, Session.summary_compile, ← (listed_of_mem_compilingPasses hr).2]
  rfl

/-- The last summary counts the components that do not compile. -/
theorem failed_of_last_summary {s : PassSummary}
    (h : (compileDocument settings d skipCache).2.result.summaries.getLast? = some s) :
    s.failed + (d.freshBundles settings).length = d.discover.elems.length := by
  obtain ⟨reports, code, current, passes, summaries, -⟩ := exists_passes settings d skipCache
  rw [summaries, List.getLast?_map] at h
  obtain ⟨r, hr, rfl⟩ := Option.map_eq_some_iff.1 h
  have components := (passes.accounts r (List.mem_of_getLast? hr)).components
  rw [passes.last r hr] at components
  omega

/-- There are summaries unless there are no components. -/
theorem summaries_eq_nil_iff :
    (compileDocument settings d skipCache).2.result.summaries = [] ↔ d.discover.elems = [] := by
  rw [(compileDocument_passes settings d skipCache).1, List.map_eq_nil_iff, compilingPasses]
  have doc : (Session.start settings d).document = d := rfl
  cases skipCache with
  | true => simp [Session.passesOf]
  | false =>
    simp only [Session.passesOf, doc, Bool.not_false, if_true, ← List.isEmpty_iff]
    split
    · next empty => simp [empty]
    · split <;> simp_all

/-- There are no more failures than components in the figures just if there are no components, or some
component yields a bundle and there are as many different names and compiled components together as
components. -/
theorem failed_le_components_iff (filesWritten : Nat) :
    let stats := (compileDocument settings d skipCache).2.result.stats filesWritten
    stats.failed ≤ stats.components ↔ d.discover.elems = [] ∨ d.Yields settings skipCache ∧
      d.discover.elems.length ≤ ((d.listed d.discover.elems).map Prod.fst).dedup.length +
        (d.freshBundles settings).length := by
  show ((compileDocument settings d skipCache).2.result.summaries.getLast?.getD {}).failed ≤
    (compileDocument settings d skipCache).2.result.state.total ↔ _
  cases last : (compileDocument settings d skipCache).2.result.summaries.getLast? with
  | none =>
    have empty := summaries_eq_nil_iff.1 (List.getLast?_eq_none_iff.1 last)
    exact iff_of_true (Nat.zero_le _) (.inl empty)
  | some s =>
    have some : d.discover.elems ≠ [] := fun empty => by
      rw [summaries_eq_nil_iff.2 empty] at last
      cases last
    have counts := failed_of_last_summary last
    rw [Option.getD_some, or_iff_right some]
    by_cases yields : d.Yields settings skipCache
    · rw [(state_of_yields yields).1, and_iff_right yields]
      omega
    · -- Without bundles all components fail, and the blank state counts none.
      have fresh : d.freshBundles settings = [] := by
        by_contra fresh
        exact yields (.inl fresh)
      have positive : 0 < d.discover.elems.length := List.length_pos_iff.2 some
      rw [fresh, List.length_nil] at counts
      rw [state_of_not_yields yields]
      exact iff_of_false (fun none : s.failed ≤ 0 => by omega) fun served => yields served.1

/-- The figures of a compiled document, for all settings, with the cache or without. There are summaries
unless there are no components. Every summary counts the different names of the components that can be
described, and the last one the failures of all components that do not compile. If some component compiles,
or has a bundle on its node that is asked for, then the output has the same number of components, and an
index of them. If none does, it has none of both. So the figures have no more failures than components just
if there are no components, or some component yields a bundle and there are as many different names and
compiled components together as components. -/
theorem compileDocument_figures (settings : Settings) (d : Document) (skipCache : Bool)
    (filesWritten : Nat) :
    let out := (compileDocument settings d skipCache).2.result
    let components := d.discover.elems
    let names := (d.listed components).map Prod.fst
    let stats := out.stats filesWritten
    (out.summaries = [] ↔ components = []) ∧
      (∀ s ∈ out.summaries, s.total = names.dedup.length) ∧
      (∀ s, out.summaries.getLast? = some s →
        s.failed + (d.freshBundles settings).length = components.length) ∧
      (d.Yields settings skipCache →
        out.state.total = names.dedup.length ∧ out.state.index = indexText settings names) ∧
      (¬ d.Yields settings skipCache → out.state = {}) ∧
      (stats.failed ≤ stats.components ↔ components = [] ∨ d.Yields settings skipCache ∧
        components.length ≤ names.dedup.length + (d.freshBundles settings).length) :=
  ⟨summaries_eq_nil_iff, fun _ => total_of_summary, fun _ => failed_of_last_summary, state_of_yields,
    state_of_not_yields, failed_le_components_iff filesWritten⟩

/-- A card with an instance of no component. -/
def brokenCard : Document :=
  .filed
    [{ id := "a", name := "Card", kind := .component, children := ["i"] },
      { id := "i", name := "Broken", kind := .componentInstance, mainComponent := some "gone" }]

/-- Its only component is discovered, listed and counted, and fails. The output has no components and a
blank index, and its figures have one failure of no components. -/
theorem figures_miss_brokenCard :
    (brokenCard.listed brokenCard.discover.elems).map Prod.fst = ["Card"] ∧
      let out := (compileDocument {} brokenCard true).2.result
      out.summaries = [{ pass := 1, total := 1, failed := 1 }] ∧
        out.state.total = 0 ∧ out.state.index ≠ indexText {} ["Card"] ∧
        (out.stats 0).components < (out.stats 0).failed ∧
        ((compileDocument {} brokenCard false).2.result.stats 0).components <
          ((compileDocument {} brokenCard false).2.result.stats 0).failed := by
  decide +kernel

end Handoff
