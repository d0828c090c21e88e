import Handoff.Proofs.Cache.NodeData
import Handoff.Session.Pass

/-!
# What serving one component does to the tiers

Over a table and the nodes of the document there are four ways to serve a component: the table knows
it, the node has it and the table learns it, it is compiled and kept in both tiers, or it fails and
nothing changes. All facts about passes and sessions rest on this case analysis.
-/

namespace Handoff

/-- A store over a table and the nodes of a document. -/
structure Store.Over (s : Store) (namespaceName key : String) (m : OrderedMap Bundle) (d : Document) :
    Prop where
  volatile : s.volatile = .memory m
  durable : s.durable = .nodeData namespaceName key
  document : s.document = d

/-- The ways to serve a component: the table and the document before, and after with the result. -/
inductive Served (settings : Settings) (namespaceName key : String) (skipCache : Bool) (id : NodeId)
    (m : OrderedMap Bundle) (d : Document) :
    OrderedMap Bundle → Document → Except CompileError Outcome → Prop where
  | remembered {b : Bundle} : skipCache = false → m.get? id = some b →
    Served settings namespaceName key skipCache id m d m d (.ok ⟨b, true⟩)
  | promoted {b : Bundle} : skipCache = false → d.kept namespaceName key id = .ok (some b) →
    Served settings namespaceName key skipCache id m d (m.insert id b) d (.ok ⟨b, true⟩)
  | compiled {b : Bundle} : (d.compile settings id).2 = .ok b →
    Served settings namespaceName key skipCache id m d (m.insert id b)
      (d.keeping namespaceName key id b) (.ok ⟨b, false⟩)
  | failed {e : CompileError} : (d.compile settings id).2 = .error e →
    Served settings namespaceName key skipCache id m d m d (.error e)

variable {settings : Settings} {namespaceName key : String} {skipCache : Bool} {id : NodeId}
  {m : OrderedMap Bundle} {d : Document}

namespace Store

variable {s : Store}

/-- The volatile tier has what the table has. -/
theorem volatile?_of_over (h : s.Over namespaceName key m d) (id : NodeId) :
    s.volatile? id = m.get? id := by
  rw [volatile?, h.volatile, Tier.read_memory]

private theorem keep_over (h : s.Over namespaceName key m d) {n : Node} (hn : d.node? id = some n)
    (b : Bundle) : (s.keep id b).2 = .ok () ∧
      (s.keep id b).1.Over namespaceName key (m.insert id b) (d.keeping namespaceName key id b) := by
  have found : d.contains id = true := by rw [Document.contains_eq_isSome, hn]; rfl
  simp only [keep, h.volatile, h.durable, h.document, Tier.write, Document.setPluginValue, found,
    if_true]
  exact ⟨trivial, rfl, rfl, rfl⟩

private theorem rebuild_served (h : s.Over namespaceName key m d) (skipCache : Bool) :
    ∃ m' d', (s.rebuild settings id).1.Over namespaceName key m' d' ∧
      Served settings namespaceName key skipCache id m d m' d' (s.rebuild settings id).2.2 := by
  unfold rebuild
  rw [h.document]
  split
  · next e hc => exact ⟨m, d, h, .failed (by rw [hc])⟩
  · next b hc =>
    have built : (d.compile settings id).2 = .ok b := by rw [hc]
    obtain ⟨n, hn⟩ := Document.node?_of_compile built
    obtain ⟨hok, hover⟩ := keep_over h hn b
    generalize s.keep id b = kept at hok hover ⊢
    obtain ⟨s', result⟩ := kept
    cases hok
    exact ⟨_, _, hover, .compiled built⟩

private theorem lookupDurable_over (h : s.Over namespaceName key m d) (id : NodeId) :
    ((s.lookupDurable id).found = none ∧ (s.lookupDurable id).store.Over namespaceName key m d) ∨
      ∃ b, (s.lookupDurable id).found = some b ∧ d.kept namespaceName key id = .ok (some b) ∧
        (s.lookupDurable id).store.Over namespaceName key (m.insert id b) d := by
  have read : s.durable.read s.document id = d.kept namespaceName key id := by
    rw [h.durable, h.document]
    rfl
  unfold lookupDurable
  rw [read]
  cases hk : d.kept namespaceName key id with
  | error e => exact Or.inl ⟨rfl, h.volatile, h.durable, h.document⟩
  | ok found =>
    cases found with
    | none => exact Or.inl ⟨rfl, h.volatile, h.durable, h.document⟩
    | some b =>
      refine Or.inr ⟨b, rfl, rfl, ?_⟩
      simp only [promote, h.volatile, Tier.write]
      exact ⟨rfl, h.durable, h.document⟩

/-- Serving a component happens in one of the four ways. -/
theorem serve_served (settings : Settings) (skipCache : Bool) (id : NodeId)
    (h : s.Over namespaceName key m d) :
    ∃ m' d', (s.serve settings skipCache id).1.Over namespaceName key m' d' ∧
      Served settings namespaceName key skipCache id m d m' d'
        (s.serve settings skipCache id).2.2 := by
  unfold serve
  split
  · exact rebuild_served h _
  · next hskip =>
    have hskip : skipCache = false := by simpa using hskip
    have read : s.volatile.read s.document id = .ok (m.get? id) := by rw [h.volatile]; rfl
    unfold lookup
    rw [read]
    cases hm : m.get? id with
    | some b => exact ⟨m, d, ⟨h.volatile, h.durable, h.document⟩, .remembered hskip hm⟩
    | none =>
      rcases lookupDurable_over h id with ⟨hnone, hover⟩ | ⟨b, hsome, hkept, hover⟩
      · generalize s.lookupDurable id = looked at hnone hover
        obtain ⟨s', found, log⟩ := looked
        cases hnone
        exact rebuild_served hover _
      · generalize s.lookupDurable id = looked at hsome hover
        obtain ⟨s', found, log⟩ := looked
        cases hsome
        exact ⟨_, _, hover, .promoted hskip hkept⟩

end Store

namespace Served

variable {m' : OrderedMap Bundle} {d' : Document} {result : Except CompileError Outcome}
  (h : Served settings namespaceName key skipCache id m d m' d' result)
include h

/-- Serving changes plugin data only. -/
theorem bare_eq : d'.bare = d.bare := by
  cases h with
  | remembered => rfl
  | promoted => rfl
  | compiled => exact Document.bare_keeping id _
  | failed => rfl

/-- Serving one component leaves what the table has for others. -/
theorem get?_of_ne {k : NodeId} (hk : k ≠ id) : m'.get? k = m.get? k := by
  cases h with
  | remembered => rfl
  | promoted => rw [OrderedMap.get?_insert, if_neg hk]
  | compiled => rw [OrderedMap.get?_insert, if_neg hk]
  | failed => rfl

/-- Serving one component leaves what other nodes keep. -/
theorem kept_of_ne {k : NodeId} (hk : k ≠ id) :
    d'.kept namespaceName key k = d.kept namespaceName key k := by
  cases h with
  | remembered => rfl
  | promoted => rfl
  | compiled => exact Document.kept_keeping_of_ne hk _
  | failed => rfl

end Served
end Handoff
