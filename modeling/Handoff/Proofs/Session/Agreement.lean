import Handoff.Proofs.Session.Load

/-!
# The tiers agree

A session that starts with an empty table over a document never lets the table and the nodes disagree:
whatever the table has for a component, its node has too. This holds through promotions, recompilations
over unreadable texts, pruning, failures, and edits that keep every node and its plugin data.
-/

namespace Handoff

variable {settings : Settings} {namespaceName key : String} {skipCache : Bool}
  {m m' : OrderedMap Bundle} {d d' : Document}

/-- Whether the nodes of a document have all that a table has. -/
def Agreed (namespaceName key : String) (m : OrderedMap Bundle) (d : Document) : Prop :=
  ∀ id b, m.get? id = some b → d.kept namespaceName key id = .ok (some b)

/-- Whether every node of a document is found in another one under the same id and with the same plugin
data. -/
def Document.KeepsNodes (d d' : Document) : Prop :=
  ∀ id n, d.node? id = some n → ∃ n', d'.node? id = some n' ∧ n'.pluginData = n.pluginData

/-! ## Steps -/

/-- Forgetting components in the table keeps the agreement. -/
theorem Agreed.filterKeys (h : Agreed namespaceName key m d) (keep : String → Bool) :
    Agreed namespaceName key (m.filterKeys keep) d := by
  intro id b hb
  rw [OrderedMap.get?_filterKeys] at hb
  split at hb
  · exact h id b hb
  · cases hb

/-- Editing a document without losing nodes or plugin data keeps the agreement. -/
theorem Agreed.edit (h : Agreed namespaceName key m d) (keeps : d.KeepsNodes d') :
    Agreed namespaceName key m d' := by
  intro id b hb
  have kept := h id b hb
  cases hn : d.node? id with
  | none =>
    have nothing : d.kept namespaceName key id = .ok none := by
      simp [Document.kept, Tier.read, Tier.payload?, Document.pluginValue?, hn]
    rw [nothing] at kept
    cases kept
  | some n =>
    obtain ⟨n', hn', hdata⟩ := keeps id n hn
    rw [← kept]
    apply Document.kept_congr
    rw [hn, hn', Option.map_some, Option.map_some, hdata]

namespace Served

variable {id : NodeId} {result : Except CompileError Outcome}
  (served : Served settings namespaceName key skipCache id m d m' d' result)
  (sizes : d.SizesReadBack) (h : Agreed namespaceName key m d)
include served sizes h

/-- A component that is served is in both tiers with the bundle that is handed out. -/
theorem outcome_inBothTiers {o : Outcome} (ok : result = .ok o) :
    InBothTiers namespaceName key m' d' id o.bundle := by
  cases served with
  | remembered _ hb =>
    cases ok
    exact ⟨hb, h id _ hb⟩
  | promoted _ hb =>
    cases ok
    exact ⟨by rw [OrderedMap.get?_insert, if_pos rfl], hb⟩
  | compiled hc =>
    cases ok
    obtain ⟨n, hn⟩ := Document.node?_of_compile hc
    exact ⟨by rw [OrderedMap.get?_insert, if_pos rfl],
      Document.kept_keeping hn (Document.sizesReadBack_of_compile sizes hc)⟩
  | failed => cases ok

/-- Serving a component keeps the agreement. -/
theorem agreed : Agreed namespaceName key m' d' := by
  intro k b hb
  by_cases hk : k = id
  · subst hk
    cases hr : result with
    | ok o =>
      have both := served.outcome_inBothTiers sizes h hr
      rw [both.table] at hb
      cases hb
      exact both.node
    | error e =>
      subst hr
      cases served
      exact h k b hb
  · rw [served.get?_of_ne hk] at hb
    rw [served.kept_of_ne hk]
    exact h k b hb

end Served

/-- Serving targets one after the other keeps the agreement. -/
theorem Run.agreed {targets : List NodeId} {results : List (Except CompileError Outcome)}
    (run : Run settings namespaceName key skipCache targets m d results m' d')
    (sizes : d.SizesReadBack) (h : Agreed namespaceName key m d) :
    Agreed namespaceName key m' d' := by
  induction run with
  | done => exact h
  | icon _ _ ih => exact ih sizes h
  | next _ served _ ih =>
    exact ih (Document.sizesReadBack_of_bare_eq served.bare_eq.symm sizes) (served.agreed sizes h)

/-! ## Sessions -/

namespace Session

/-- What holds in every state of a session: it is over a table and the nodes of its document, these agree,
and the sizes of asset nodes read back. -/
def Consistent (namespaceName key : String) (s : Session) : Prop :=
  ∃ m d, s.store.Over namespaceName key m d ∧ d.SizesReadBack ∧ Agreed namespaceName key m d

variable {s : Session}

/-- A pass keeps a session consistent. -/
theorem Consistent.compile (h : s.Consistent namespaceName key) (components targets : List NodeId)
    (skipCache : Bool) : (s.compile components targets skipCache).1.Consistent namespaceName key := by
  obtain ⟨m, d, hover, sizes, agreed⟩ := h
  obtain ⟨results, m', d', run, hover', -, -⟩ := compile_run hover components targets skipCache
  exact ⟨m', d', hover', Document.sizesReadBack_of_bare_eq run.bare_eq.symm sizes,
    run.agreed sizes (agreed.filterKeys _)⟩

/-- Serving one component keeps a session consistent, and both tiers have what is handed out. -/
theorem Consistent.compileComponent (h : s.Consistent namespaceName key) (id : NodeId)
    (skipCache : Bool) :
    ∃ m d, (s.compileComponent id skipCache).1.store.Over namespaceName key m d ∧ d.SizesReadBack ∧
      Agreed namespaceName key m d ∧
      ∀ o, (s.compileComponent id skipCache).2.result = .ok o →
        InBothTiers namespaceName key m d id o.bundle := by
  obtain ⟨m, d, hover, sizes, agreed⟩ := h
  obtain ⟨m', d', hover', served⟩ := Store.serve_served s.settings skipCache id hover
  exact ⟨m', d', hover', Document.sizesReadBack_of_bare_eq served.bare_eq.symm sizes,
    served.agreed sizes agreed, fun o ok => served.outcome_inBothTiers sizes agreed ok⟩

/-- Loading keeps a session consistent. -/
theorem Consistent.load (h : s.Consistent namespaceName key) :
    s.load.1.Consistent namespaceName key :=
  load_keeps (fun _ components targets skipCache h => h.compile components targets skipCache) h

/-- Compiling what changes ask for keeps a session consistent. -/
theorem Consistent.handleChanges (h : s.Consistent namespaceName key) (changes : List Change) :
    (s.handleChanges changes).1.Consistent namespaceName key :=
  handleChanges_keeps (fun _ components targets skipCache h => h.compile components targets skipCache)
    h changes

/-- Editing the document without losing nodes or plugin data keeps a session consistent. -/
theorem Consistent.edit (h : s.Consistent namespaceName key) {d' : Document}
    (keeps : s.document.KeepsNodes d') (sizes : d'.SizesReadBack) :
    (s.withDocument d').Consistent namespaceName key := by
  obtain ⟨m, d, hover, -, agreed⟩ := h
  obtain rfl := hover.document
  exact ⟨m, d', ⟨hover.volatile, hover.durable, rfl⟩, sizes, agreed.edit keeps⟩

/-- The states of sessions that start over an empty table and the nodes of a document, whatever these
hold, and then serve components, run passes, load, follow changes, and have their document edited
without losing nodes or plugin data. Writing the theme anew yields a report and no other state. -/
inductive Reachable (namespaceName key : String) : Session → Prop where
  | start {s : Session} : s.store.volatile = .memory .empty →
    s.store.durable = .nodeData namespaceName key → s.document.SizesReadBack →
    Reachable namespaceName key s
  | compileComponent {s : Session} (id : NodeId) (skipCache : Bool) :
    Reachable namespaceName key s → Reachable namespaceName key (s.compileComponent id skipCache).1
  | compile {s : Session} (components targets : List NodeId) (skipCache : Bool) :
    Reachable namespaceName key s →
    Reachable namespaceName key (s.compile components targets skipCache).1
  | load {s : Session} : Reachable namespaceName key s → Reachable namespaceName key s.load.1
  | handleChanges {s : Session} (changes : List Change) :
    Reachable namespaceName key s → Reachable namespaceName key (s.handleChanges changes).1
  | edit {s : Session} (d' : Document) : s.document.KeepsNodes d' → d'.SizesReadBack →
    Reachable namespaceName key s → Reachable namespaceName key (s.withDocument d')

/-- Every reachable state is consistent. -/
theorem Reachable.consistent (h : s.Reachable namespaceName key) :
    s.Consistent namespaceName key := by
  induction h with
  | start volatile durable sizes =>
    refine ⟨.empty, _, ⟨volatile, durable, rfl⟩, sizes, ?_⟩
    intro id b hb
    cases hb
  | compileComponent id skipCache _ ih =>
    obtain ⟨m, d, hover, sizes, agreed, -⟩ := ih.compileComponent id skipCache
    exact ⟨m, d, hover, sizes, agreed⟩
  | compile components targets skipCache _ ih => exact ih.compile components targets skipCache
  | load _ ih => exact ih.load
  | handleChanges changes _ ih => exact ih.handleChanges changes
  | edit d' keeps sizes _ ih => exact ih.edit keeps sizes

/-- In every reachable state the durable tier, read on its own, has each bundle that the volatile tier
has; and whenever a component is served, both tiers then have the bundle that was handed out. -/
theorem tiers_agree (h : s.Reachable namespaceName key) :
    (∀ id b, s.store.volatile.read s.document id = .ok (some b) →
      s.store.readDurable id = .ok (some b)) ∧
    ∀ id skipCache o, (s.compileComponent id skipCache).2.result = .ok o →
      (s.compileComponent id skipCache).1.store.volatile.read
          (s.compileComponent id skipCache).1.document id = .ok (some o.bundle) ∧
        (s.compileComponent id skipCache).1.store.readDurable id = .ok (some o.bundle) := by
  constructor
  · intro id b hb
    obtain ⟨m, d, hover, -, agreed⟩ := h.consistent
    rw [hover.volatile, Tier.read_memory] at hb
    rw [Store.readDurable, hover.durable, hover.document]
    exact agreed id b (Except.ok.inj hb)
  · intro id skipCache o ok
    obtain ⟨m, d, hover, -, -, both⟩ := h.consistent.compileComponent id skipCache
    constructor
    · rw [hover.volatile, Tier.read_memory, (both o ok).table]
    · rw [Store.readDurable, hover.durable, hover.document]
      exact (both o ok).node

/-- A session that has served the bundle that it found on the node of a component. -/
def promotedSession : Session := (straySession.compileComponent "c" false).1

/-- Compiling that component anew replaces the bundle on its node, too. -/
theorem promotedSession_replaces_stray_bundle :
    ∃ o, (promotedSession.compileComponent "c" true).2.result = .ok o ∧
      (promotedSession.compileComponent "c" true).1.store.readDurable "c" = .ok (some o.bundle) := by
  have reachable : promotedSession.Reachable "scenec" "data" :=
    .compileComponent "c" false (.start rfl rfl (by decide +kernel))
  have serves : (promotedSession.compileComponent "c" true).2.result.toOption.isSome = true := by
    decide +kernel
  cases ho : (promotedSession.compileComponent "c" true).2.result with
  | error e =>
    rw [ho] at serves
    cases serves
  | ok o => exact ⟨o, rfl, ((tiers_agree reachable).2 "c" true o ho).2⟩

end Session
end Handoff
