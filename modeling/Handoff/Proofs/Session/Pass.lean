import Handoff.Proofs.Cache.Serving
import Handoff.Session.Output

/-!
# What a pass does

A pass serves its targets one after the other, all but the icons. Its summary counts how they are served, and
its events report with what, whatever the tiers are. Over a table and the nodes of the document, a pass
leaves alone what it does not serve; if nothing comes from the cache, it leaves in both tiers, for every
target that compiles, what compiling it yields.
-/

namespace Handoff

/-- Whether a component was served from the cache. -/
def fromCache : Except CompileError Outcome → Bool
  | .ok o => o.cached
  | .error _ => false

/-- Whether a component was compiled. -/
def compiledAnew : Except CompileError Outcome → Bool
  | .ok o => !o.cached
  | .error _ => false

/-- Whether a component failed. -/
def hasFailed : Except CompileError Outcome → Bool
  | .ok _ => false
  | .error _ => true

/-- The bundle of a component that was served. -/
def servedBundle? : Except CompileError Outcome → Option Bundle
  | .ok o => some o.bundle
  | .error _ => none

/-- The bundle that an event reports. -/
def Event.bundle? : Event → Option Bundle
  | build _ _ b => some b
  | _ => none

/-- Whether both tiers have a bundle for a component. -/
structure InBothTiers (namespaceName key : String) (m : OrderedMap Bundle) (d : Document)
    (id : NodeId) (b : Bundle) : Prop where
  table : m.get? id = some b
  node : d.kept namespaceName key id = .ok (some b)

/-- Serving targets one after the other: the tiers before, the results, and the tiers after. -/
inductive Run (settings : Settings) (namespaceName key : String) (skipCache : Bool) :
    List NodeId → OrderedMap Bundle → Document → List (Except CompileError Outcome) →
      OrderedMap Bundle → Document → Prop where
  | done {m : OrderedMap Bundle} {d : Document} :
    Run settings namespaceName key skipCache [] m d [] m d
  | icon {id : NodeId} {rest : List NodeId} {m m' : OrderedMap Bundle} {d d' : Document}
      {results : List (Except CompileError Outcome)} :
    d.isIcon id = true → Run settings namespaceName key skipCache rest m d results m' d' →
      Run settings namespaceName key skipCache (id :: rest) m d results m' d'
  | next {id : NodeId} {rest : List NodeId} {m m₁ m' : OrderedMap Bundle} {d d₁ d' : Document}
      {result : Except CompileError Outcome} {results : List (Except CompileError Outcome)} :
    d.isIcon id = false → Served settings namespaceName key skipCache id m d m₁ d₁ result →
      Run settings namespaceName key skipCache rest m₁ d₁ results m' d' →
      Run settings namespaceName key skipCache (id :: rest) m d (result :: results) m' d'

variable {settings : Settings} {namespaceName key : String} {skipCache : Bool}
  {targets : List NodeId} {m m' : OrderedMap Bundle} {d d' : Document}
  {results : List (Except CompileError Outcome)}

/-! ## What steps report -/

/-- How targets are served from a state on: each target that is no icon, with its outcome. -/
def PassState.outcomes (settings : Settings) (skipCache : Bool) :
    PassState → List NodeId → List (NodeId × Except CompileError Outcome)
  | _, [] => []
  | p, id :: rest =>
    let others := outcomes settings skipCache (step settings skipCache p id) rest
    if p.store.document.isIcon id then others
    else (id, (p.store.serve settings skipCache id).2.2) :: others

/-- The ways to go on after a target. -/
inductive PassState.Goes (settings : Settings) (skipCache : Bool) (p : PassState) (id : NodeId) :
    PassState → Prop where
  | icon : p.store.document.isIcon id = true → Goes settings skipCache p id p
  | served {store : Store} {log : List LogRecord} {o : Outcome} :
    p.store.document.isIcon id = false →
      p.store.serve settings skipCache id = (store, log, .ok o) →
      Goes settings skipCache p id (p.served store o log)
  | failed {store : Store} {log : List LogRecord} {e : CompileError} :
    p.store.document.isIcon id = false →
      p.store.serve settings skipCache id = (store, log, .error e) →
      Goes settings skipCache p id (p.failed store id e log)

/-- A step goes on in one of the three ways. -/
theorem PassState.step_goes (settings : Settings) (skipCache : Bool) (p : PassState) (id : NodeId) :
    p.Goes settings skipCache id (step settings skipCache p id) := by
  unfold step
  split
  · next hicon => exact .icon hicon
  · next hicon =>
    have hicon : p.store.document.isIcon id = false := by simpa using hicon
    split
    · next h => exact .served hicon h
    · next h => exact .failed hicon h

namespace PassSummary

/-- A summary that counts more outcomes. -/
def count (s : PassSummary) (outcomes : List (NodeId × Except CompileError Outcome)) : PassSummary :=
  { s with
    compiled := s.compiled + outcomes.countP (compiledAnew ·.2)
    cached := s.cached + outcomes.countP (fromCache ·.2)
    failed := s.failed + outcomes.countP (hasFailed ·.2) }

/-- Outcomes are counted one list after the other. -/
theorem count_append (s : PassSummary) (l₁ l₂ : List (NodeId × Except CompileError Outcome)) :
    s.count (l₁ ++ l₂) = (s.count l₁).count l₂ := by
  simp only [count, List.countP_append, Nat.add_assoc]

end PassSummary

/-- Every outcome is a bundle that is served, or a failure. -/
theorem length_servedBundle?_add_hasFailed (outcomes : List (NodeId × Except CompileError Outcome)) :
    (outcomes.filterMap (servedBundle? ·.2)).length + outcomes.countP (hasFailed ·.2) =
      outcomes.length := by
  induction outcomes with
  | nil => rfl
  | cons x rest ih =>
    obtain ⟨id, result⟩ := x
    rw [List.filterMap_cons, List.countP_cons, List.length_cons, ← ih]
    cases result with
    | ok o => exact Nat.add_right_comm _ 1 _
    | error e => rfl

namespace PassState

variable {p p' : PassState} {id : NodeId}

/-- A step counts the outcome of its target, if it has one. -/
theorem Goes.summary (goes : p.Goes settings skipCache id p') :
    p'.summary = p.summary.count (p.outcomes settings skipCache [id]) := by
  cases goes with
  | icon hicon => simp [outcomes, hicon, PassSummary.count]
  | @served _ _ o hicon h =>
    obtain ⟨b, hit⟩ := o
    cases hit <;> simp [outcomes, hicon, h, PassState.served, countServed, PassSummary.count,
      compiledAnew, fromCache, hasFailed]
  | failed hicon h =>
    simp [outcomes, hicon, h, PassState.failed, PassSummary.count, compiledAnew, fromCache, hasFailed]

/-- A step reports what its target is served with, if it is served. -/
theorem Goes.reported (goes : p.Goes settings skipCache id p') :
    p'.events.filterMap Event.bundle? = p.events.filterMap Event.bundle? ++
      (p.outcomes settings skipCache [id]).filterMap (servedBundle? ·.2) := by
  cases goes with
  | icon hicon => simp [outcomes, hicon]
  | served hicon h => simp [outcomes, hicon, h, PassState.served, Event.bundle?, servedBundle?]
  | failed hicon h => simp [outcomes, hicon, h, PassState.failed, servedBundle?]

/-- Targets are served one list after the other. -/
theorem outcomes_append (settings : Settings) (skipCache : Bool) (p : PassState) (l₁ l₂ : List NodeId) :
    p.outcomes settings skipCache (l₁ ++ l₂) =
      p.outcomes settings skipCache l₁ ++
        (l₁.foldl (step settings skipCache) p).outcomes settings skipCache l₂ := by
  induction l₁ generalizing p with
  | nil => rfl
  | cons id rest ih =>
    rw [List.cons_append, outcomes, outcomes, ih, List.foldl_cons]
    split <;> rfl

/-- The first target is served before the others. -/
theorem outcomes_cons (p : PassState) (id : NodeId) (rest : List NodeId) :
    p.outcomes settings skipCache (id :: rest) = p.outcomes settings skipCache [id] ++
      (step settings skipCache p id).outcomes settings skipCache rest :=
  outcomes_append settings skipCache p [id] rest

/-- An outcome is that of a target in its place. -/
theorem exists_place_of_mem_outcomes {targets : List NodeId} {x : NodeId × Except CompileError Outcome}
    (h : x ∈ p.outcomes settings skipCache targets) :
    ∃ before later, targets = before ++ x.1 :: later ∧
      (before.foldl (step settings skipCache) p).store.document.isIcon x.1 = false ∧
      ((before.foldl (step settings skipCache) p).store.serve settings skipCache x.1).2.2 = x.2 := by
  induction targets generalizing p with
  | nil => cases h
  | cons id rest ih =>
    by_cases own : p.store.document.isIcon id = false ∧ x = (id, (p.store.serve settings skipCache id).2.2)
    · obtain ⟨hicon, rfl⟩ := own
      exact ⟨[], rest, rfl, hicon, rfl⟩
    · have further : x ∈ (step settings skipCache p id).outcomes settings skipCache rest := by
        rw [outcomes] at h
        split at h
        · exact h
        · next hicon =>
          exact (List.mem_cons.1 h).resolve_left fun same => own ⟨by simpa using hicon, same⟩
      obtain ⟨before, later, rfl, place⟩ := ih further
      exact ⟨id :: before, later, rfl, place⟩

/-- The summary counts the outcomes of the targets. -/
theorem summary_foldl_step (settings : Settings) (skipCache : Bool) (p : PassState)
    (targets : List NodeId) :
    (targets.foldl (step settings skipCache) p).summary =
      p.summary.count (p.outcomes settings skipCache targets) := by
  induction targets generalizing p with
  | nil => rfl
  | cons id rest ih =>
    rw [List.foldl_cons, ih, (step_goes settings skipCache p id).summary, p.outcomes_cons id rest,
      PassSummary.count_append]

/-- The reports are of what the targets are served with, in order. -/
theorem reported_foldl_step (settings : Settings) (skipCache : Bool) (p : PassState)
    (targets : List NodeId) :
    (targets.foldl (step settings skipCache) p).events.filterMap Event.bundle? =
      p.events.filterMap Event.bundle? ++
        (p.outcomes settings skipCache targets).filterMap (servedBundle? ·.2) := by
  induction targets generalizing p with
  | nil => exact (List.append_nil _).symm
  | cons id rest ih =>
    rw [List.foldl_cons, ih, (step_goes settings skipCache p id).reported, p.outcomes_cons id rest,
      List.filterMap_append, List.append_assoc]

end PassState

/-! ## From passes to runs -/

/-- A step over a target that is no icon serves it. -/
theorem PassState.step_served (settings : Settings) (skipCache : Bool) {p : PassState}
    (h : p.store.Over namespaceName key m d) {id : NodeId} (hicon : ¬d.isIcon id = true) :
    ∃ m₁ d₁, Served settings namespaceName key skipCache id m d m₁ d₁
        (p.store.serve settings skipCache id).2.2 ∧
      (step settings skipCache p id).store.Over namespaceName key m₁ d₁ := by
  obtain ⟨m₁, d₁, hover, served⟩ := Store.serve_served settings skipCache id h
  refine ⟨m₁, d₁, served, ?_⟩
  rw [step, h.document, if_neg hicon]
  generalize p.store.serve settings skipCache id = answer at hover ⊢
  obtain ⟨store, log, result⟩ := answer
  cases result <;> exact hover

/-- A step over an icon changes nothing. -/
theorem PassState.step_of_isIcon {p : PassState} (h : p.store.Over namespaceName key m d) {id : NodeId}
    (hicon : d.isIcon id = true) : step settings skipCache p id = p := by
  rw [step, h.document, if_pos hicon]

/-- The targets of a pass are served in a run. -/
theorem PassState.foldl_step_run (settings : Settings) (skipCache : Bool) (p : PassState)
    (h : p.store.Over namespaceName key m d) (targets : List NodeId) :
    ∃ m' d', Run settings namespaceName key skipCache targets m d
        ((p.outcomes settings skipCache targets).map Prod.snd) m' d' ∧
      (targets.foldl (step settings skipCache) p).store.Over namespaceName key m' d' := by
  induction targets generalizing p m d with
  | nil => exact ⟨m, d, .done, h⟩
  | cons id rest ih =>
    rw [List.foldl_cons, outcomes, h.document]
    by_cases hicon : d.isIcon id = true
    · rw [if_pos hicon, step_of_isIcon h hicon]
      obtain ⟨m', d', run, final⟩ := ih p h
      exact ⟨m', d', .icon hicon run, final⟩
    · rw [if_neg hicon, List.map_cons]
      obtain ⟨m₁, d₁, served, first⟩ := step_served settings skipCache h hicon
      obtain ⟨m', d', run, final⟩ := ih _ first
      exact ⟨m', d', .next (by simpa using hicon) served run, final⟩

/-- A session starts over an empty table and the nodes of its document. -/
theorem Session.start_over (settings : Settings) (d : Document) :
    (Session.start settings d).store.Over settings.cache.namespaceName settings.cache.key .empty d :=
  ⟨rfl, rfl, rfl⟩

/-- Forgetting other components keeps a store over a table and the nodes of its document. -/
theorem prune_over {s : Store} (h : s.Over namespaceName key m d) (ids : List NodeId) :
    (s.prune ids).Over namespaceName key (m.filterKeys (ids.contains ·)) d := by
  refine ⟨?_, ?_, h.document⟩
  · simp only [Store.prune, h.volatile, Tier.retain]
  · simp only [Store.prune, h.durable, Tier.retain]

/-- How a pass serves its targets. -/
def Session.outcomes (s : Session) (components targets : List NodeId) (skipCache : Bool) :
    List (NodeId × Except CompileError Outcome) :=
  (s.startPass components targets).outcomes s.settings skipCache targets

/-- The state in which a pass begins is over the entries of the table for its components. -/
theorem Session.startPass_over {s : Session} (h : s.store.Over namespaceName key m d)
    (components targets : List NodeId) : (s.startPass components targets).store.Over namespaceName key
      (m.filterKeys (components.contains ·)) d :=
  prune_over h components

/-- The summary of a pass counts its outcomes. -/
theorem Session.result_compile (s : Session) (components targets : List NodeId) (skipCache : Bool) :
    (s.compile components targets skipCache).2.result =
      (s.startPass components targets).summary.count (s.outcomes components targets skipCache) :=
  PassState.summary_foldl_step s.settings skipCache (s.startPass components targets) targets

/-- The events of a pass report what its targets are served with, in order. -/
theorem Session.reported_compile (s : Session) (components targets : List NodeId) (skipCache : Bool) :
    (s.compile components targets skipCache).2.events.filterMap Event.bundle? =
      (s.outcomes components targets skipCache).filterMap (servedBundle? ·.2) :=
  PassState.reported_foldl_step s.settings skipCache (s.startPass components targets) targets

/-- A pass forgets other components and then serves its targets in a run. -/
theorem Session.compile_run {s : Session} (h : s.store.Over namespaceName key m d)
    (components targets : List NodeId) (skipCache : Bool) :
    ∃ results m' d', Run s.settings namespaceName key skipCache targets
        (m.filterKeys (components.contains ·)) d results m' d' ∧
      (s.compile components targets skipCache).1.store.Over namespaceName key m' d' ∧
      (s.compile components targets skipCache).2.result.cached = results.countP fromCache ∧
      (s.compile components targets skipCache).2.events.filterMap Event.bundle? =
        results.filterMap servedBundle? := by
  obtain ⟨m', d', run, final⟩ :=
    PassState.foldl_step_run s.settings skipCache _ (startPass_over h components targets) targets
  refine ⟨_, m', d', run, final, ?_, ?_⟩
  · rw [result_compile, List.countP_map]
    exact Nat.zero_add _
  · rw [reported_compile, List.filterMap_map]
    rfl

namespace Session

variable {P : Session → Prop}
  (pass : ∀ s components targets skipCache, P s → P (s.compile components targets skipCache).1)
include pass

/-- Loading keeps what every pass keeps. -/
theorem load_keeps {s : Session} (h : P s) : P s.load.1 := by
  unfold load
  simp only
  split
  · exact h
  · split
    · exact pass _ _ _ _ h
    · exact pass _ _ _ _ (pass _ _ _ _ h)

/-- Following changes keeps what every pass keeps. -/
theorem handleChanges_keeps {s : Session} (h : P s) (changes : List Change) :
    P (s.handleChanges changes).1 := by
  unfold handleChanges
  simp only
  split
  · exact h
  · exact pass _ _ _ _ h

end Session

/-! ## What runs keep -/

namespace Run

/-- A run changes plugin data only. -/
theorem bare_eq (run : Run settings namespaceName key skipCache targets m d results m' d') :
    d'.bare = d.bare := by
  induction run with
  | done => rfl
  | icon _ _ ih => exact ih
  | next _ served _ ih => rw [ih, served.bare_eq]

/-- A run leaves what the table has for components that are no targets. -/
theorem get?_of_not_mem (run : Run settings namespaceName key skipCache targets m d results m' d')
    {k : NodeId} (hk : k ∉ targets) : m'.get? k = m.get? k := by
  induction run with
  | done => rfl
  | icon _ _ ih => exact ih fun h => hk (List.mem_cons_of_mem _ h)
  | next _ served _ ih =>
    rw [ih fun h => hk (List.mem_cons_of_mem _ h)]
    exact served.get?_of_ne fun h => hk (by rw [h]; exact List.mem_cons_self)

/-- A run leaves what the nodes of components keep that are no targets. -/
theorem kept_of_not_mem (run : Run settings namespaceName key skipCache targets m d results m' d')
    {k : NodeId} (hk : k ∉ targets) :
    d'.kept namespaceName key k = d.kept namespaceName key k := by
  induction run with
  | done => rfl
  | icon _ _ ih => exact ih fun h => hk (List.mem_cons_of_mem _ h)
  | next _ served _ ih =>
    rw [ih fun h => hk (List.mem_cons_of_mem _ h)]
    exact served.kept_of_ne fun h => hk (by rw [h]; exact List.mem_cons_self)

/-- What both tiers have for a target is decided when it is served for the last time. -/
theorem exists_served (run : Run settings namespaceName key skipCache targets m d results m' d')
    {id : NodeId} (mem : id ∈ targets) (hicon : d.isIcon id = false) :
    ∃ m₁ d₁ m₂ d₂ result, d₁.bare = d.bare ∧ result ∈ results ∧
      Served settings namespaceName key skipCache id m₁ d₁ m₂ d₂ result ∧
      m'.get? id = m₂.get? id ∧ d'.kept namespaceName key id = d₂.kept namespaceName key id := by
  induction run with
  | done => cases mem
  | icon hi _ ih =>
    rcases List.mem_cons.1 mem with rfl | mem
    · rw [hi] at hicon
      cases hicon
    · exact ih mem hicon
  | @next _ rest _ _ _ _ _ _ _ _ _ served run ih =>
    by_cases later : id ∈ rest
    · have same := served.bare_eq
      obtain ⟨m₁, d₁, m₂, d₂, result, bare, hr, others⟩ :=
        ih later ((Document.isIcon_of_bare_eq same id).trans hicon)
      exact ⟨m₁, d₁, m₂, d₂, result, bare.trans same, List.mem_cons_of_mem _ hr, others⟩
    · rcases List.mem_cons.1 mem with rfl | mem
      · exact ⟨_, _, _, _, _, rfl, List.mem_cons_self, served, run.get?_of_not_mem later,
          run.kept_of_not_mem later⟩
      · exact absurd mem later

end Run

/-- What the tiers have for one of different targets in the end is what they had right after it was
served. -/
theorem PassState.exists_served {p : PassState} (h : p.store.Over namespaceName key m d)
    (distinct : targets.Nodup) {x : NodeId × Except CompileError Outcome}
    (hx : x ∈ p.outcomes settings skipCache targets) :
    ∃ (s : Store) (before : List NodeId) (results : List (Except CompileError Outcome))
      (m₁ m₂ m' : OrderedMap Bundle) (d₁ d₂ d' : Document),
      Run settings namespaceName key skipCache before m d results m₁ d₁ ∧
      s.Over namespaceName key m₁ d₁ ∧ (s.serve settings skipCache x.1).2.2 = x.2 ∧
      Served settings namespaceName key skipCache x.1 m₁ d₁ m₂ d₂ x.2 ∧
      (targets.foldl (step settings skipCache) p).store.Over namespaceName key m' d' ∧
      d'.bare = d₂.bare ∧ m'.get? x.1 = m₂.get? x.1 ∧
      d'.kept namespaceName key x.1 = d₂.kept namespaceName key x.1 := by
  obtain ⟨before, later, rfl, hicon, result⟩ := exists_place_of_mem_outcomes hx
  have fresh : x.1 ∉ later := (List.nodup_cons.1 (List.nodup_append.1 distinct).2.1).1
  obtain ⟨m₁, d₁, run₁, over₁⟩ := foldl_step_run settings skipCache p h before
  have component : ¬d₁.isIcon x.1 = true := by rw [← over₁.document, hicon]; exact Bool.false_ne_true
  obtain ⟨m₂, d₂, served, over₂⟩ := step_served settings skipCache over₁ component
  obtain ⟨m', d', run, final⟩ := foldl_step_run settings skipCache _ over₂ later
  rw [result] at served
  refine ⟨_, before, _, m₁, m₂, m', d₁, d₂, d', run₁, over₁, result, served, ?_, run.bare_eq,
    run.get?_of_not_mem fresh, run.kept_of_not_mem fresh⟩
  rw [List.foldl_append]
  exact final

/-- A component that was not served from the cache and compiles is in the table, and on its node if the
sizes of asset nodes read back. -/
theorem Served.bundle_of_fresh {id : NodeId} {b : Bundle} {result : Except CompileError Outcome}
    (served : Served settings namespaceName key skipCache id m d m' d' result)
    (fresh : fromCache result = false) (built : (d.compile settings id).2 = .ok b) :
    m'.get? id = some b ∧
      (d.SizesReadBack → d'.kept namespaceName key id = .ok (some b)) := by
  cases served with
  | remembered => cases fresh
  | promoted => cases fresh
  | compiled hc =>
    rw [built] at hc
    cases hc
    obtain ⟨n, hn⟩ := Document.node?_of_compile built
    exact ⟨by rw [OrderedMap.get?_insert, if_pos rfl], fun sizes =>
      Document.kept_keeping hn (Document.sizesReadBack_of_compile sizes built)⟩
  | failed hc =>
    rw [built] at hc
    cases hc

namespace Run

/-- In a run without the cache nothing comes from the cache. -/
theorem fresh_of_skip (run : Run settings namespaceName key true targets m d results m' d') :
    ∀ result ∈ results, fromCache result = false := by
  induction run with
  | done => simp
  | icon _ _ ih => exact ih
  | next _ served _ ih =>
    intro result hr
    rcases List.mem_cons.1 hr with rfl | hr
    · cases served with
      | remembered hskip => cases hskip
      | promoted hskip => cases hskip
      | compiled => rfl
      | failed => rfl
    · exact ih result hr

/-- After a run in which nothing came from the cache, every target that compiles is in the table, and on
its node if the sizes of asset nodes read back. -/
theorem bundle_of_fresh {id : NodeId} {b : Bundle}
    (run : Run settings namespaceName key skipCache targets m d results m' d')
    (fresh : ∀ result ∈ results, fromCache result = false) (mem : id ∈ targets)
    (hicon : d.isIcon id = false) (built : (d.compile settings id).2 = .ok b) :
    m'.get? id = some b ∧
      (d.SizesReadBack → d'.kept namespaceName key id = .ok (some b)) := by
  obtain ⟨m₁, d₁, m₂, d₂, result, bare, hr, served, table, node⟩ := run.exists_served mem hicon
  rw [← Document.compile_of_bare_eq bare] at built
  obtain ⟨inTable, onNode⟩ := served.bundle_of_fresh (fresh _ hr) built
  rw [table, node]
  exact ⟨inTable, fun sizes => onNode (Document.sizesReadBack_of_bare_eq bare.symm sizes)⟩

/-- In a run in which nothing came from the cache, the bundles are those of the targets that
compile. -/
theorem bundles_of_fresh
    (run : Run settings namespaceName key skipCache targets m d results m' d')
    (fresh : ∀ result ∈ results, fromCache result = false) :
    results.filterMap servedBundle? =
      (targets.filter (!d.isIcon ·)).filterMap fun id => (d.compile settings id).2.toOption := by
  induction run with
  | done => rfl
  | icon hi _ ih =>
    rw [ih fresh, List.filter_cons_of_neg (by simp [hi])]
  | next hi served _ ih =>
    have same := served.bare_eq
    have compiled := Document.compile_of_bare_eq same settings
    rw [List.filter_cons_of_pos (by simp [hi]), List.filterMap_cons, List.filterMap_cons,
      ih fun r hr => fresh r (List.mem_cons_of_mem _ hr), Document.not_isIcon_of_bare_eq same]
    simp only [compiled]
    have first := fresh _ List.mem_cons_self
    cases served with
    | remembered => cases first
    | promoted => cases first
    | compiled hc => simp [servedBundle?, hc, Except.toOption]
    | failed hc => simp [servedBundle?, hc, Except.toOption]

end Run
end Handoff
