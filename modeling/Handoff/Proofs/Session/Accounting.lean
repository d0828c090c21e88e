import Handoff.Proofs.Session.Reports

/-!
# What passes account for

A pass reports every target that is no icon or counts it as failed, so a pass that counts no failure has
bundles for all components. Its reports carry one index, which exports the components that can be
described, and each bundle in them comes from compiling a component or from the cache.
-/

namespace Handoff

variable {settings : Settings} {namespaceName key : String} {skipCache : Bool}
  {m m' : OrderedMap Bundle} {d d' : Document} {targets : List NodeId}

/-! ## Indices -/

/-- The index that an event reports. -/
def Event.index? : Event → Option String
  | build _ state _ => some state.index
  | _ => none

namespace PassState

variable {p : PassState} {index : String}

/-- Whether the project and all reports have one index. -/
def Indexed (p : PassState) (index : String) : Prop :=
  p.project.index = index ∧ ∀ e ∈ p.events, ∀ i, e.index? = some i → i = index

private theorem Indexed.step (h : p.Indexed index) (id : NodeId) :
    (step settings skipCache p id).Indexed index := by
  unfold PassState.step
  split
  · exact h
  · split
    · refine ⟨h.1, fun e he i hi => ?_⟩
      rcases List.mem_append.1 he with he | he
      · exact h.2 e he i hi
      · cases List.mem_singleton.1 he
        cases hi
        exact h.1
    · refine ⟨?_, h.2⟩
      unfold failed
      dsimp only
      split <;> exact h.1

/-- The steps of a pass keep the index. -/
theorem Indexed.foldl_step (h : p.Indexed index) (targets : List NodeId) :
    (targets.foldl (PassState.step settings skipCache) p).Indexed index := by
  induction targets generalizing p with
  | nil => exact h
  | cons id rest ih => exact ih (h.step id)

end PassState

/-- The names and ids of the components that can be described. -/
def Document.listed (d : Document) (components : List NodeId) : List (String × NodeId) :=
  components.filterMap fun id => (d.describe id none).toOption.map fun found => (found.name, found.id)

/-- Documents that differ in plugin data only list the same components. -/
theorem Document.listed_of_bare_eq (same : d'.bare = d.bare) (components : List NodeId) :
    d'.listed components = d.listed components := by
  simp only [listed, describe_of_bare_eq same]

namespace Store

/-- The roster lists the components that can be described, in order. -/
theorem listed_roster (s : Store) (ids : List NodeId) :
    (s.roster ids).2.map (fun e => (e.name, e.id)) = s.document.listed ids := by
  induction ids with
  | nil => rfl
  | cons id rest ih =>
    rw [roster, Document.listed, List.filterMap_cons, ← Document.listed, ← ih, rosterEntry]
    cases s.document.describe id none <;> rfl

/-- The names in the roster. -/
theorem names_roster (s : Store) (ids : List NodeId) :
    (s.roster ids).2.map (·.name) = (s.document.listed ids).map Prod.fst := by
  rw [← listed_roster, List.map_map]
  rfl

/-- The project starts with the index of the roster. -/
theorem index_startProject (s : Store) (entries : List RosterEntry) (untouched : List NodeId) :
    (s.startProject settings entries untouched).index =
      indexText settings (entries.map (·.name)) := by
  have known (bundles : List Bundle) (p : ProjectState) :
      (bundles.foldl ProjectState.add p).index = p.index := by
    induction bundles generalizing p with
    | nil => rfl
    | cons b rest ih => exact (ih (p.add b)).trans rfl
  exact known _ _

end Store

/-- Bundles of a run over different targets, none of which the table knows, come from compiling a target or
from its node. -/
theorem Run.origin {results : List (Except CompileError Outcome)}
    (run : Run settings namespaceName key skipCache targets m d results m' d') (distinct : targets.Nodup)
    (unknown : skipCache = false → ∀ id ∈ targets, m.get? id = none) {b : Bundle}
    (h : b ∈ results.filterMap servedBundle?) :
    ∃ id ∈ targets, (d.compile settings id).2 = .ok b ∨
      skipCache = false ∧ d.kept namespaceName key id = .ok (some b) := by
  induction run with
  | done => cases h
  | icon _ _ ih =>
    obtain ⟨id, hid, source⟩ := ih (List.nodup_cons.1 distinct).2
      (fun hs id hid => unknown hs id (List.mem_cons_of_mem _ hid)) h
    exact ⟨id, List.mem_cons_of_mem _ hid, source⟩
  | @next first rest m m₁ _ d d₁ _ result results _ served _ ih =>
    obtain ⟨fresh, distinct⟩ := List.nodup_cons.1 distinct
    have differs {id : NodeId} (hid : id ∈ rest) : id ≠ first := by
      rintro rfl
      exact fresh hid
    -- The first target is served over the table from before, and leaves what there is for the others.
    rw [← List.singleton_append, List.filterMap_append, List.mem_append] at h
    rcases h with h | h
    · refine ⟨first, List.mem_cons_self, ?_⟩
      cases served with
      | remembered hskip found =>
        rw [unknown hskip first List.mem_cons_self] at found
        cases found
      | promoted hskip kept =>
        cases List.mem_singleton.1 h
        exact .inr ⟨hskip, kept⟩
      | compiled built =>
        cases List.mem_singleton.1 h
        exact .inl built
      | failed => cases h
    · obtain ⟨id, hid, source⟩ := ih distinct
        (fun hs id hid => (served.get?_of_ne (differs hid)).trans
          (unknown hs id (List.mem_cons_of_mem _ hid))) h
      refine ⟨id, List.mem_cons_of_mem _ hid, ?_⟩
      rw [Document.compile_of_bare_eq served.bare_eq, served.kept_of_ne (differs hid)] at source
      exact source

/-! ## Passes over all components -/

namespace Document

/-- Whether all components of a document compile. -/
def Complete (d : Document) (settings : Settings) : Prop :=
  ∀ id ∈ d.discover.elems, ∃ b, (d.compile settings id).2 = .ok b

/-- The name and the id in a description do not depend on the selection. -/
theorem listing_describe (d : Document) (id : NodeId) (selected selected' : Option NodeId) :
    (d.describe id selected).toOption.map (fun found => (found.name, found.id)) =
      (d.describe id selected').toOption.map fun found => (found.name, found.id) := by
  unfold describe
  split
  · rfl
  · split
    · rfl
    · split
      · rfl
      · split <;> rfl

/-- A component that compiles is described under the name and the id of its bundle. -/
theorem listing_of_compile {id : NodeId} {b : Bundle} (built : (d.compile settings id).2 = .ok b) :
    (d.describe id none).toOption.map (fun found => (found.name, found.id)) = some (b.name, b.id) := by
  obtain ⟨descriptor, described, same, name⟩ := describe_of_compile built
  rw [listing_describe d id none (d.selectedChild? id), described, same, name]
  rfl

/-- Where all components compile, their bundles have the names of their descriptions. -/
theorem Complete.names_freshBundles (complete : d.Complete settings) :
    (d.freshBundles settings).map (·.name) = (d.listed d.discover.elems).map Prod.fst := by
  rw [freshBundles, filter_discover, List.map_filterMap, listed, List.map_filterMap]
  refine List.filterMap_congr fun id found => ?_
  obtain ⟨b, built⟩ := complete id found
  rw [listing_of_compile built, built]
  rfl

/-- The components of a document compile if there are as many bundles. -/
theorem complete_of_length (h : (d.freshBundles settings).length = d.discover.elems.length) :
    d.Complete settings := by
  intro id found
  rw [freshBundles, filter_discover] at h
  have compiles := List.filterMap_length_eq_length.1 h id found
  cases hc : (d.compile settings id).2 with
  | error e =>
    rw [hc] at compiles
    cases compiles
  | ok b => exact ⟨b, rfl⟩

private theorem Complete.of_bare_eq (same : d'.bare = d.bare) (complete : d.Complete settings) :
    d'.Complete settings := by
  intro id found
  rw [discover_of_bare_eq same] at found
  rw [compile_of_bare_eq same]
  exact complete id found

private theorem freshBundles_of_bare_eq (same : d'.bare = d.bare) (settings : Settings) :
    d'.freshBundles settings = d.freshBundles settings := by
  rw [freshBundles, freshBundles, filter_discover, filter_discover, discover_of_bare_eq same]
  simp only [compile_of_bare_eq same]

/-- The bundle of a component that is built is one of the document's bundles, and there are no others. -/
theorem mem_freshBundles_iff {b : Bundle} : b ∈ d.freshBundles settings ↔
    ∃ id ∈ d.discover.elems, (d.compile settings id).2 = .ok b := by
  constructor
  · intro h
    obtain ⟨id, found, built⟩ := List.mem_filterMap.1 h
    refine ⟨id, List.mem_of_mem_filter found, ?_⟩
    cases hc : (d.compile settings id).2 with
    | error e =>
      rw [hc] at built
      cases built
    | ok b' =>
      rw [hc] at built
      cases built
      rfl
  · rintro ⟨id, found, built⟩
    exact mem_freshBundles found built

end Document

/-- What a report of a pass over all components of a document accounts for. -/
structure Accounts (settings : Settings) (namespaceName key : String) (skipCache : Bool) (d : Document)
    (r : Report PassSummary) : Prop where
  /-- Every component is reported or counted as failed. -/
  components : (r.events.filterMap Event.bundle?).length + r.result.failed = d.discover.elems.length
  /-- Where all components compile, the index exports them all. -/
  index : d.Complete settings → ∀ e ∈ r.events, ∀ i, e.index? = some i →
    i = indexText settings ((d.freshBundles settings).map (·.name))
  /-- Every bundle comes from compiling a component, or from the node of one. -/
  origin : ∀ b ∈ r.events.filterMap Event.bundle?, b ∈ d.freshBundles settings ∨
    skipCache = false ∧ ∃ id ∈ d.discover.elems, d.kept namespaceName key id = .ok (some b)

namespace Session

/-- A pass over all components accounts for them, if it is the first one or leaves the cache out. -/
theorem compile_accounts {s : Session} (h : s.store.Over namespaceName key m d') (same : d'.bare = d.bare)
    (first : skipCache = false → m = .empty ∧ d' = d) :
    Accounts s.settings namespaceName key skipCache d
      (s.compile d.discover.elems d.discover.elems skipCache).2 where
  components := by
    have tried : (s.outcomes d.discover.elems d.discover.elems skipCache).length =
        d.discover.elems.length := by
      have listed := PassState.map_fst_outcomes s.settings skipCache
        (s.startPass d.discover.elems d.discover.elems) d.discover.elems
      have document : (s.startPass d.discover.elems d.discover.elems).store.document = d' := h.document
      rw [document, Document.not_isIcon_of_bare_eq same, Document.filter_discover] at listed
      rw [← List.length_map Prod.fst, outcomes, listed]
    rw [reported_compile, result_compile, ← tried, ← length_servedBundle?_add_hasFailed]
    exact congrArg _ (Nat.zero_add _)
  index := by
    intro complete
    have names : ((s.store.prune d.discover.elems).roster d.discover.elems).2.map (·.name) =
        (d.freshBundles s.settings).map (·.name) := by
      have document : (s.store.prune d.discover.elems).document = d' := h.document
      rw [Store.names_roster, document, ← Document.freshBundles_of_bare_eq same,
        (complete.of_bare_eq same).names_freshBundles, Document.discover_of_bare_eq same]
    -- The roster is written before the first step, and no step changes the index.
    have start : (s.startPass d.discover.elems d.discover.elems).Indexed
        (indexText s.settings ((d.freshBundles s.settings).map (·.name))) := by
      refine ⟨?_, by rintro _ ⟨⟩⟩
      rw [← names]
      exact Store.index_startProject _ _ _
    exact (start.foldl_step d.discover.elems).2
  origin := by
    intro b hb
    obtain ⟨results, _, _, run, -, -, bundles⟩ :=
      compile_run h d.discover.elems d.discover.elems skipCache
    rw [bundles] at hb
    obtain ⟨id, found, built | ⟨hskip, kept⟩⟩ := run.origin d.discover.nodup (fun hskip id _ => by
      rw [(first hskip).1]
      rfl) hb
    · rw [Document.compile_of_bare_eq same] at built
      exact .inl (Document.mem_freshBundles found built)
    · rw [(first hskip).2] at kept
      exact .inr ⟨hskip, id, found, kept⟩

/-- A pass over all components in which no bundle comes from the cache reports what they compile to. -/
theorem bundles_of_fresh_pass {s : Session} (h : s.store.Over namespaceName key m d')
    (same : d'.bare = d.bare) (fresh : skipCache = true ∨
      (s.compile d.discover.elems d.discover.elems skipCache).2.result.cached = 0) :
    (s.compile d.discover.elems d.discover.elems skipCache).2.events.filterMap Event.bundle? =
      d.freshBundles s.settings := by
  obtain ⟨results, _, _, run, -, cached, bundles⟩ :=
    compile_run h d.discover.elems d.discover.elems skipCache
  have uncached : ∀ result ∈ results, fromCache result = false := by
    rcases fresh with rfl | zero
    · exact run.fresh_of_skip
    · rw [cached, List.countP_eq_zero] at zero
      exact fun result hr => by simpa using zero result hr
  rw [bundles, run.bundles_of_fresh uncached, ← Document.freshBundles_of_bare_eq same,
    Document.freshBundles, Document.discover_of_bare_eq same]

/-- Loading takes one pass, after which nothing came from the cache, or a second one without it. -/
theorem load_of_nonempty {s : Session} (h : s.document.discover.elems ≠ []) :
    let components := s.document.discover.elems
    let first := s.compile components components false
    let second := first.1.compile components components true
    first.2.result.cached = 0 ∧ s.load.2.result = [first.2.result] ∧
        s.load.2.events = first.2.events ∨
      s.load.2.result = [first.2.result, second.2.result] ∧
        s.load.2.events = first.2.events ++ second.2.events := by
  intro components first second
  have hne : s.document.discover.elems.isEmpty = false := by simpa using h
  unfold load
  simp only [hne, Bool.false_eq_true, if_false]
  split
  · next zero => exact .inl ⟨zero, rfl, rfl⟩
  · exact .inr ⟨rfl, rfl⟩

end Session

/-! ## Compiled documents -/

private theorem state_foldl_collect (events : List Event) (o : ProjectOutput) :
    (events.foldl ProjectOutput.collect o).state = (events.filterMap Event.state?).getLast?.getD o.state := by
  induction events generalizing o with
  | nil => rfl
  | cons e rest ih =>
    rw [List.foldl_cons, ih]
    cases e with
    | build pass state b => exact (congrArg (Option.getD · o.state) List.getLast?_cons).symm
    | theme | notice => rfl

/-- The state in the output is the one that is shown last. -/
theorem state_compileDocument (settings : Settings) (d : Document) (skipCache : Bool) :
    (compileDocument settings d skipCache).2.result.state =
      ((compileDocument settings d skipCache).2.events.filterMap Event.state?).getLast?.getD {} :=
  state_foldl_collect _ {}

/-- Passes over all components of a document that account for them, the last one without the cache. -/
structure Passes (settings : Settings) (namespaceName key : String) (skipCache : Bool) (d : Document)
    (reports : List (Report PassSummary)) : Prop where
  accounts : ∀ r ∈ reports, Accounts settings namespaceName key skipCache d r
  last : ∀ r, reports.getLast? = some r → r.events.filterMap Event.bundle? = d.freshBundles settings
  none : reports = [] → d.discover.elems = []

namespace Session

variable {s : Session} (h : s.store.Over namespaceName key .empty d)
include h

private theorem recompile_passes : ∃ reports,
    Passes s.settings namespaceName key true d reports ∧
      s.recompile.2.result = reports.map (·.result) ∧
      s.recompile.2.events = reports.flatMap (·.events) := by
  have doc : s.document = d := h.document
  by_cases hne : d.discover.elems = []
  · rw [recompile_of_empty (by rw [doc]; exact hne)]
    exact ⟨[], ⟨by simp, by simp, fun _ => hne⟩, rfl, rfl⟩
  · obtain ⟨result, events⟩ := recompile_of_nonempty (s := s) (by rw [doc]; exact hne)
    rw [doc] at result events
    rw [result, events]
    have accounts := compile_accounts h rfl fun hskip : true = false => by cases hskip
    have fresh := bundles_of_fresh_pass h rfl (.inl (rfl : true = true))
    refine ⟨[(s.compile d.discover.elems d.discover.elems true).2], ⟨?_, ?_, by simp⟩, rfl, by simp⟩
    · intro r hr
      rw [List.mem_singleton.1 hr]
      exact accounts
    · intro r hr
      cases hr
      exact fresh

private theorem load_passes : ∃ reports,
    Passes s.settings namespaceName key false d reports ∧
      s.load.2.result = reports.map (·.result) ∧
      s.load.2.events = reports.flatMap (·.events) := by
  have doc : s.document = d := h.document
  by_cases hne : d.discover.elems = []
  · rw [load_of_empty (by rw [doc]; exact hne)]
    exact ⟨[], ⟨by simp, by simp, fun _ => hne⟩, rfl, rfl⟩
  · have cases := load_of_nonempty (s := s) (by rw [doc]; exact hne)
    rw [doc] at cases
    let first := s.compile d.discover.elems d.discover.elems false
    let second := first.1.compile d.discover.elems d.discover.elems true
    have accounts : Accounts s.settings namespaceName key false d first.2 :=
      compile_accounts h rfl fun _ => ⟨rfl, rfl⟩
    rcases cases with ⟨zero, result, events⟩ | ⟨result, events⟩
    · refine ⟨[first.2], ⟨?_, ?_, by simp⟩, result, events.trans (by simp [first])⟩
      · intro r hr
        rw [List.mem_singleton.1 hr]
        exact accounts
      · intro r hr
        cases hr
        exact bundles_of_fresh_pass h rfl (.inr zero)
    · -- A pass with hits is followed by one that starts from its store and leaves the cache out.
      obtain ⟨_, m₁, d₁, run, stored, -, -⟩ := compile_run h d.discover.elems d.discover.elems false
      have again : Accounts s.settings namespaceName key true d second.2 :=
        compile_accounts stored run.bare_eq fun hskip => by cases hskip
      have fresh : second.2.events.filterMap Event.bundle? = d.freshBundles s.settings :=
        bundles_of_fresh_pass stored run.bare_eq (.inl rfl)
      refine ⟨[first.2, second.2], ⟨?_, ?_, by simp⟩, result, events.trans (by simp [first, second])⟩
      · intro r hr
        rcases List.mem_cons.1 hr with rfl | hr
        · exact accounts
        · rw [List.mem_singleton.1 hr]
          refine { again with origin := fun b hb => .inl ?_ }
          exact fresh ▸ hb
      · intro r hr
        cases hr
        exact fresh

end Session

/-- A document is compiled in passes over all its components, after which the theme is reported. -/
theorem exists_passes (settings : Settings) (d : Document) (skipCache : Bool) :
    ∃ reports code current,
      Passes settings settings.cache.namespaceName settings.cache.key skipCache d reports ∧
      (compileDocument settings d skipCache).2.result.summaries = reports.map (·.result) ∧
      (compileDocument settings d skipCache).2.events =
        reports.flatMap (·.events) ++ [.theme code current] := by
  have start : (Session.start settings d).store.Over settings.cache.namespaceName settings.cache.key
      .empty d := ⟨rfl, rfl, rfl⟩
  cases skipCache with
  | true =>
    obtain ⟨reports, passes, result, events⟩ := Session.recompile_passes start
    exact ⟨reports, _, _, passes, result, congrArg (· ++ [_]) events⟩
  | false =>
    obtain ⟨reports, passes, result, events⟩ := Session.load_passes start
    exact ⟨reports, _, _, passes, result, congrArg (· ++ [_]) events⟩

/-- If the last pass over a document counts no failure, all its components compile. -/
theorem complete_of_compileDocument (last : ∀ summary,
    (compileDocument settings d skipCache).2.result.summaries.getLast? = some summary →
      summary.failed = 0) : d.Complete settings := by
  obtain ⟨reports, code, current, passes, summaries, -⟩ := exists_passes settings d skipCache
  rw [summaries, List.getLast?_map] at last
  cases hr : reports.getLast? with
  | none =>
    intro id found
    rw [passes.none (List.getLast?_eq_none_iff.1 hr)] at found
    cases found
  | some r =>
    have components := (passes.accounts r (List.mem_of_getLast? hr)).components
    rw [last r.result (by rw [hr]; rfl), passes.last r hr] at components
    exact Document.complete_of_length components

/-- Where all components compile, the final index exports them all. -/
theorem index_compileDocument (complete : d.Complete settings) :
    (compileDocument settings d skipCache).2.result.state.index =
      indexText settings ((d.freshBundles settings).map (·.name)) := by
  obtain ⟨reports, code, current, passes, -, events⟩ := exists_passes settings d skipCache
  have indexed : ∀ e ∈ (compileDocument settings d skipCache).2.events, ∀ i, e.index? = some i →
      i = indexText settings ((d.freshBundles settings).map (·.name)) := by
    intro e he i hi
    rw [events] at he
    rcases List.mem_append.1 he with he | he
    · obtain ⟨r, hr, he⟩ := List.mem_flatMap.1 he
      exact (passes.accounts r hr).index complete e he i hi
    · cases List.mem_singleton.1 he
      cases hi
  rw [state_compileDocument]
  cases shown : ((compileDocument settings d skipCache).2.events.filterMap Event.state?).getLast? with
  | none =>
    -- Without a report of a bundle there are no components, and the index is empty.
    have silent := List.filterMap_eq_nil_iff.1 (List.getLast?_eq_none_iff.1 shown)
    have none : d.freshBundles settings = [] := by
      rw [List.eq_nil_iff_forall_not_mem]
      intro b hb
      cases hr : reports.getLast? with
      | none =>
        obtain ⟨id, found, -⟩ := Document.mem_freshBundles_iff.1 hb
        rw [passes.none (List.getLast?_eq_none_iff.1 hr)] at found
        cases found
      | some r =>
        rw [← passes.last r hr] at hb
        obtain ⟨e, he, hbundle⟩ := List.mem_filterMap.1 hb
        have listed : e ∈ (compileDocument settings d skipCache).2.events := by
          rw [events]
          exact List.mem_append_left _ (List.mem_flatMap.2 ⟨r, List.mem_of_getLast? hr, he⟩)
        have reported := silent e listed
        cases e with
        | build => cases reported
        | theme => cases hbundle
        | notice => cases hbundle
    rw [none]
    rfl
  | some state =>
    obtain ⟨e, he, found⟩ := List.mem_filterMap.1 (List.mem_of_getLast? shown)
    cases e with
    | build => exact indexed _ he _ (congrArg (Option.map ProjectState.index) found)
    | theme => cases found
    | notice => cases found

/-- Every bundle of a compiled document is what a component compiles to, or comes from the node of one. -/
theorem origin_of_bundle {id : NodeId} {b : Bundle}
    (h : (compileDocument settings d skipCache).2.result.bundles.get? id = some b) :
    b.id = id ∧ (b ∈ d.freshBundles settings ∨ skipCache = false ∧ ∃ k ∈ d.discover.elems,
      d.kept settings.cache.namespaceName settings.cache.key k = .ok (some b)) := by
  obtain ⟨reports, code, current, passes, -, events⟩ := exists_passes settings d skipCache
  have bundles : (compileDocument settings d skipCache).2.result.bundles =
      OrderedMap.empty.insertAll (((compileDocument settings d skipCache).2.events.filterMap
        Event.bundle?).map fun b => (b.id, b)) := bundles_foldl_collect _ {}
  rw [bundles] at h
  rcases OrderedMap.mem_entries_insertAll (OrderedMap.mem_of_get? h) with listed | listed
  · obtain ⟨b', hb', same⟩ := List.mem_map.1 listed
    cases same
    refine ⟨rfl, ?_⟩
    obtain ⟨e, he, hbundle⟩ := List.mem_filterMap.1 hb'
    rw [events] at he
    rcases List.mem_append.1 he with he | he
    · obtain ⟨r, hr, he⟩ := List.mem_flatMap.1 he
      exact (passes.accounts r hr).origin _ (List.mem_filterMap.2 ⟨e, he, hbundle⟩)
    · cases List.mem_singleton.1 he
      cases hbundle
  · cases listed

end Handoff
