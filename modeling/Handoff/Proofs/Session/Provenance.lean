import Handoff.Proofs.Cache.Footprint
import Handoff.Proofs.Cache.Tiers
import Handoff.Proofs.Scene.Adoption
import Handoff.Proofs.Session.Load

/-!
# Where served bundles come from

A component is served with the bundle that the table has for it, else with the bundle that its node has,
else with what it compiles to. Nothing compares the id that a bundle carries with the component that asks
for it. So a component is served under its own id if all that a session may find for it carries this id,
in the document that it starts over and in every document that it goes over to.
-/

namespace Handoff

variable {settings : Settings} {namespaceName key : String} {skipCache : Bool} {id : NodeId}
  {m m' : OrderedMap Bundle} {d d' : Document}

/-! ## Lookups -/

/-- Serving a component from the cache yields what the table has, else what the node has, else what the
component compiles to. -/
theorem Store.result_serve {s : Store} (h : s.Over namespaceName key m d) :
    (s.serve settings false id).2.2 =
      match m.get? id, d.kept namespaceName key id with
      | some b, _ => .ok ⟨b, true⟩
      | none, .ok (some b) => .ok ⟨b, true⟩
      | none, _ => (d.compile settings id).2.map (⟨·, false⟩) := by
  have table : s.volatile.read s.document id = .ok (m.get? id) := by rw [h.volatile]; rfl
  have node : s.durable.read s.document id = d.kept namespaceName key id := by
    rw [h.durable, h.document]
    rfl
  have document : s.document.compile settings id = d.compile settings id := by rw [h.document]
  unfold serve lookup lookupDurable
  rw [if_neg Bool.false_ne_true, table, node]
  cases m.get? id with
  | some b => rfl
  | none =>
    -- A miss is counted, and this is all that the store to compile in differs by.
    cases d.kept namespaceName key id with
    | error e => exact (result_rebuild _).trans (by rw [document])
    | ok found =>
      cases found with
      | none => exact (result_rebuild _).trans (by rw [document])
      | some b => rfl

/-! ## What a document has for a component -/

/-- Whether all that a document has for a component carries its id: the bundle that can be read from its
node, and the node that is compiled for it. -/
structure Document.Carries (d : Document) (namespaceName key : String) (id : NodeId) : Prop where
  kept : ∀ b, d.kept namespaceName key id = .ok (some b) → b.id = id
  compiled : ∀ target t, d.compileTarget? id = some target → d.node? target = some t → t.id = id

namespace Document

private theorem compiled_of_bare_eq (same : d'.bare = d.bare)
    (h : ∀ target t, d.compileTarget? id = some target → d.node? target = some t → t.id = id) :
    ∀ target t, d'.compileTarget? id = some target → d'.node? target = some t → t.id = id := by
  intro target t htarget ht
  have targets (d : Document) : d.bare.compileTarget? id = d.compileTarget? id :=
    compileTarget?_mapNodes Node.frames_bare
  obtain ⟨n, hn, bare⟩ := node?_of_bare_eq same ht
  rw [← targets, same, targets] at htarget
  rw [← Node.id_eq_of_bare bare]
  exact h target n htarget hn

/-- What can be read from a node after a bundle has been written to it carries the id of this bundle. -/
theorem id_of_kept_keeping {n : Node} {b b' : Bundle} (hn : d.node? id = some n)
    (h : (d.keeping namespaceName key id b).kept namespaceName key id = .ok (some b')) :
    b'.id = b.id := by
  have written : (d.keeping namespaceName key id b).pluginValue? id namespaceName key = some b.print :=
    pluginValue?_keeping hn b
  rw [Document.kept, Tier.read, Tier.payload?, written, Option.filter_some, Bundle.isEmpty_print] at h
  simp only [Bool.not_false, if_true] at h
  split at h
  · next read =>
    cases h
    exact Bundle.id_of_parse?_print read
  · cases h

/-- A snapshot that takes over plugin data keeps for a component what one of both documents keeps. -/
theorem kept_adoptPluginData (namespaceName key : String) {previous : Document}
    (named : ∀ n, d.node? id = some n → n.id = id) :
    (d.adoptPluginData previous).kept namespaceName key id = d.kept namespaceName key id ∨
      (d.adoptPluginData previous).kept namespaceName key id =
        previous.kept namespaceName key id := by
  cases hn : d.node? id with
  | none => exact .inl (kept_congr (by rw [node?_adoptPluginData, hn]; rfl))
  | some n =>
    have adopted : (d.adoptPluginData previous).node? id = some (n.adopting previous) := by
      rw [node?_adoptPluginData, hn, Option.map_some]
    cases hold : previous.node? id with
    | none =>
      refine .inl (kept_congr ?_)
      rw [adopted, hn, adopting_of_missing (named n hn ▸ hold)]
    | some old =>
      have before : previous.node? n.id = some old := named n hn ▸ hold
      by_cases empty : n.pluginData.isEmpty
      · refine .inr (kept_congr ?_)
        rw [adopted, hold, adopting_of_found before, if_pos empty]
        rfl
      · refine .inl (kept_congr ?_)
        rw [adopted, hn, adopting_of_found before, if_neg empty]

namespace Carries

/-- A bundle that is compiled carries the id of the component. -/
theorem id_of_compile (h : d.Carries namespaceName key id) {b : Bundle}
    (built : (d.compile settings id).2 = .ok b) : b.id = id := by
  obtain ⟨target, t, htarget, ht, carried⟩ := Document.id_of_compile built
  rw [carried, h.compiled target t htarget ht]

/-- A snapshot that takes over plugin data has for a component what one of both documents has. -/
theorem adoptPluginData {previous : Document} (h : d.Carries namespaceName key id)
    (before : previous.Carries namespaceName key id) (named : ∀ n, d.node? id = some n → n.id = id) :
    (d.adoptPluginData previous).Carries namespaceName key id := by
  refine ⟨fun b hb => ?_, compiled_of_bare_eq (bare_adoptPluginData previous) h.compiled⟩
  rcases kept_adoptPluginData namespaceName key named with own | old
  · exact h.kept b (own.symm.trans hb)
  · exact before.kept b (old.symm.trans hb)

end Carries
end Document

/-! ## What a session has for a component -/

/-- Whether all that a table and the nodes of a document have for a component carries its id. -/
structure Attributed (namespaceName key : String) (id : NodeId) (m : OrderedMap Bundle) (d : Document) :
    Prop where
  table : ∀ b, m.get? id = some b → b.id = id
  document : d.Carries namespaceName key id

/-- Forgetting components in the table brings no other bundles. -/
theorem Attributed.filterKeys (h : Attributed namespaceName key id m d) (keep : String → Bool) :
    Attributed namespaceName key id (m.filterKeys keep) d := by
  refine ⟨fun b hb => ?_, h.document⟩
  rw [OrderedMap.get?_filterKeys] at hb
  split at hb
  · exact h.table b hb
  · cases hb

namespace Served

variable {k : NodeId} {result : Except CompileError Outcome}

/-- A component is served with its own id. -/
theorem id_of_attributed (served : Served settings namespaceName key skipCache id m d m' d' result)
    (h : Attributed namespaceName key id m d) {o : Outcome} (ok : result = .ok o) :
    o.bundle.id = id := by
  cases served with
  | remembered _ hb =>
    cases ok
    exact h.table _ hb
  | promoted _ hb =>
    cases ok
    exact h.document.kept _ hb
  | compiled built =>
    cases ok
    exact h.document.id_of_compile built
  | failed => cases ok

/-- Serving any component leaves for each component what carries its id. -/
theorem attributed (served : Served settings namespaceName key skipCache k m d m' d' result)
    (h : Attributed namespaceName key id m d) : Attributed namespaceName key id m' d' := by
  have compiled := Document.compiled_of_bare_eq served.bare_eq h.document.compiled
  by_cases hk : id = k
  · subst hk
    cases served with
    | remembered => exact h
    | @promoted b _ hb =>
      refine ⟨fun b' hb' => ?_, h.document⟩
      rw [OrderedMap.get?_insert, if_pos rfl] at hb'
      cases hb'
      exact h.document.kept _ hb
    | @compiled b built =>
      have own := h.document.id_of_compile built
      obtain ⟨n, hn⟩ := Document.node?_of_compile built
      refine ⟨fun b' hb' => ?_, fun b' hb' => ?_, compiled⟩
      · rw [OrderedMap.get?_insert, if_pos rfl] at hb'
        cases hb'
        exact own
      · rw [Document.id_of_kept_keeping hn hb', own]
    | failed => exact h
  · refine ⟨?_, ?_, compiled⟩
    · rw [served.get?_of_ne hk]
      exact h.table
    · rw [served.kept_of_ne hk]
      exact h.document.kept

end Served

/-- Serving targets one after the other leaves for each component what carries its id. -/
theorem Run.attributed {targets : List NodeId} {results : List (Except CompileError Outcome)}
    (run : Run settings namespaceName key skipCache targets m d results m' d')
    (h : Attributed namespaceName key id m d) : Attributed namespaceName key id m' d' := by
  induction run with
  | done => exact h
  | icon _ _ ih => exact ih h
  | next _ served _ ih => exact ih (served.attributed h)

namespace Session

variable {s : Session}

/-- The states of sessions that start with an empty table over the nodes of a document, and then serve
components, run passes, load, follow changes, and go over to other documents. The condition is on the
first document and those that the session goes over to, not on what the session writes to them. Writing
the theme anew yields a report and no other state. -/
inductive Along (fits : Document → Prop) (namespaceName key : String) : Session → Prop where
  | start {s : Session} : s.store.volatile = .memory .empty →
    s.store.durable = .nodeData namespaceName key → fits s.document →
    Along fits namespaceName key s
  | compileComponent {s : Session} (id : NodeId) (skipCache : Bool) :
    Along fits namespaceName key s → Along fits namespaceName key (s.compileComponent id skipCache).1
  | compile {s : Session} (components targets : List NodeId) (skipCache : Bool) :
    Along fits namespaceName key s →
    Along fits namespaceName key (s.compile components targets skipCache).1
  | load {s : Session} : Along fits namespaceName key s → Along fits namespaceName key s.load.1
  | handleChanges {s : Session} (changes : List Change) :
    Along fits namespaceName key s → Along fits namespaceName key (s.handleChanges changes).1
  | edit {s : Session} (d' : Document) : fits d' →
    Along fits namespaceName key s → Along fits namespaceName key (s.withDocument d')

/-- What holds for a component in every state of such a session: it is over a table and the nodes of its
document, and all that these have for the component carries its id. -/
def Faithful (namespaceName key : String) (id : NodeId) (s : Session) : Prop :=
  ∃ m d, s.store.Over namespaceName key m d ∧ Attributed namespaceName key id m d

namespace Faithful

/-- A pass keeps a session faithful. -/
theorem compile (h : s.Faithful namespaceName key id) (components targets : List NodeId)
    (skipCache : Bool) : (s.compile components targets skipCache).1.Faithful namespaceName key id := by
  obtain ⟨m, d, hover, attributed⟩ := h
  obtain ⟨results, m', d', run, hover', -, -⟩ := compile_run hover components targets skipCache
  exact ⟨m', d', hover', run.attributed (attributed.filterKeys _)⟩

/-- Serving any component keeps a session faithful. -/
theorem compileComponent (h : s.Faithful namespaceName key id) (k : NodeId) (skipCache : Bool) :
    (s.compileComponent k skipCache).1.Faithful namespaceName key id := by
  obtain ⟨m, d, hover, attributed⟩ := h
  obtain ⟨m', d', hover', served⟩ := Store.serve_served s.settings skipCache k hover
  exact ⟨m', d', hover', served.attributed attributed⟩

/-- Loading keeps a session faithful. -/
theorem load (h : s.Faithful namespaceName key id) : s.load.1.Faithful namespaceName key id :=
  load_keeps (fun _ components targets skipCache h => h.compile components targets skipCache) h

/-- Compiling what changes ask for keeps a session faithful. -/
theorem handleChanges (h : s.Faithful namespaceName key id) (changes : List Change) :
    (s.handleChanges changes).1.Faithful namespaceName key id :=
  handleChanges_keeps (fun _ components targets skipCache h => h.compile components targets skipCache)
    h changes

/-- Going over to a document in which all that there is for a component carries its id keeps a session
faithful. -/
theorem withDocument (h : s.Faithful namespaceName key id) (carries : d.Carries namespaceName key id) :
    (s.withDocument d).Faithful namespaceName key id := by
  obtain ⟨m, _, hover, attributed⟩ := h
  exact ⟨m, d, ⟨hover.volatile, hover.durable, rfl⟩, attributed.table, carries⟩

/-- A faithful session serves a component with its own id. -/
theorem id_of_served (h : s.Faithful namespaceName key id) {o : Outcome}
    (ok : (s.compileComponent id skipCache).2.result = .ok o) : o.bundle.id = id := by
  obtain ⟨m, d, hover, attributed⟩ := h
  obtain ⟨_, _, -, served⟩ := Store.serve_served s.settings skipCache id hover
  exact served.id_of_attributed attributed ok

end Faithful

namespace Along

/-- If all that the documents of a session have for a component carries its id, every state is
faithful. -/
theorem faithful (h : s.Along (·.Carries namespaceName key id) namespaceName key) :
    s.Faithful namespaceName key id := by
  induction h with
  | start volatile durable carries =>
    exact ⟨.empty, _, ⟨volatile, durable, rfl⟩, fun b hb => (by cases hb), carries⟩
  | compileComponent k skipCache _ ih => exact ih.compileComponent k skipCache
  | compile components targets skipCache _ ih => exact ih.compile components targets skipCache
  | load _ ih => exact ih.load
  | handleChanges changes _ ih => exact ih.handleChanges changes
  | edit d' carries _ ih => exact ih.withDocument carries

/-- Going over to a new snapshot is going over to the snapshot with the plugin data that it takes over,
and then following the changes. -/
theorem reload {snapshot : Document} (h : s.Along (·.Carries namespaceName key id) namespaceName key)
    (carries : snapshot.Carries namespaceName key id)
    (named : ∀ n, snapshot.node? id = some n → n.id = id) :
    (s.reload snapshot).1.Along (·.Carries namespaceName key id) namespaceName key := by
  obtain ⟨m, d, hover, attributed⟩ := h.faithful
  have before : s.document.Carries namespaceName key id := by
    rw [show s.document = d from hover.document]
    exact attributed.document
  have edited := Along.edit _ (carries.adoptPluginData before named) h
  unfold Session.reload
  simp only
  split
  · exact edited
  · exact edited.handleChanges _

end Along

/-- A component that is served from the cache is served with what the table has for it, else with the
bundle that can be read from its node, else with what it compiles to. What is compiled for a component
that is its own target carries its id if every node is found under its own id. Whatever is served does so
in every state of a session for which all that there is for the component carries its id, in the first
document and in those that the session goes over to. -/
theorem compileComponent_provenance (s : Session) {entries : OrderedMap Bundle}
    (volatile : s.store.volatile = .memory entries)
    (durable : s.store.durable = .nodeData namespaceName key) (id : NodeId) {o : Outcome}
    (ok : (s.compileComponent id false).2.result = .ok o) :
    (entries.get? id = some o.bundle ∧ o.cached = true ∨
      entries.get? id = none ∧ s.document.kept namespaceName key id = .ok (some o.bundle) ∧
        o.cached = true ∨
      entries.get? id = none ∧ (∀ b, s.document.kept namespaceName key id ≠ .ok (some b)) ∧
        (s.document.compile s.settings id).2 = .ok o.bundle ∧ o.cached = false) ∧
    (o.cached = false → s.document.Keyed → s.document.compileTarget? id = some id →
      o.bundle.id = id) ∧
    (s.Along (·.Carries namespaceName key id) namespaceName key → o.bundle.id = id) := by
  have hover : s.store.Over namespaceName key entries s.document := ⟨volatile, durable, rfl⟩
  have result : (s.compileComponent id false).2.result = _ := Store.result_serve hover
  rw [ok] at result
  have source : entries.get? id = some o.bundle ∧ o.cached = true ∨
      entries.get? id = none ∧ s.document.kept namespaceName key id = .ok (some o.bundle) ∧
        o.cached = true ∨
      entries.get? id = none ∧ (∀ b, s.document.kept namespaceName key id ≠ .ok (some b)) ∧
        (s.document.compile s.settings id).2 = .ok o.bundle ∧ o.cached = false := by
    split at result
    · next hm =>
      cases result
      exact .inl ⟨hm, rfl⟩
    · next hm hk =>
      cases result
      exact .inr (.inl ⟨hm, hk, rfl⟩)
    · next hm hk =>
      cases hc : (s.document.compile s.settings id).2 with
      | error e =>
        rw [hc] at result
        cases result
      | ok b =>
        rw [hc] at result
        cases result
        exact .inr (.inr ⟨hm, hk, rfl, rfl⟩)
  -- Only what is compiled is not from a tier, and this has the id of the target.
  refine ⟨source, fun fresh keyed own => ?_, fun along => along.faithful.id_of_served ok⟩
  rcases source with ⟨-, hit⟩ | ⟨-, -, hit⟩ | ⟨-, -, built, -⟩
  · rw [fresh] at hit
    cases hit
  · rw [fresh] at hit
    cases hit
  · obtain ⟨target, t, htarget, ht, carried⟩ := Document.id_of_compile built
    rw [own] at htarget
    cases htarget
    rw [carried, keyed _ _ ht]

/-- A component with a bundle on its node. -/
def keptDocument (b : Bundle) : Document :=
  { name := ""
    placements :=
      [⟨{ id := "c", name := "Card", kind := .component, pluginData := holding b }, some "c", none⟩] }

/-- A bundle of the component on its own node is handed out, also when the component is served again. -/
theorem compileComponent_keptDocument :
    let s := ((Session.start {} (keptDocument (strayBundle "c"))).compileComponent "c" false).1
    ∃ o, (s.compileComponent "c" false).2.result = .ok o ∧ o.cached = true ∧ o.bundle.id = "c" := by
  intro s
  have served : (s.compileComponent "c" false).2.result = .ok ⟨strayBundle "c", true⟩ := by
    decide +kernel
  have carries : (keptDocument (strayBundle "c")).Carries "scenec" "data" "c" := by
    constructor
    · intro b hb
      have kept : (keptDocument (strayBundle "c")).kept "scenec" "data" "c" =
          .ok (some (strayBundle "c")) := by decide +kernel
      cases kept.symm.trans hb
      rfl
    · intro target t htarget ht
      have own : (keptDocument (strayBundle "c")).compileTarget? "c" = some "c" := by decide +kernel
      cases own.symm.trans htarget
      have found : ((keptDocument (strayBundle "c")).node? "c").map Node.id = some "c" := by
        decide +kernel
      rw [ht] at found
      exact Option.some.inj found
  have along : s.Along (·.Carries "scenec" "data" "c") "scenec" "data" :=
    .compileComponent "c" false (.start rfl rfl carries)
  obtain ⟨m, d, hover, -⟩ := along.faithful
  obtain ⟨-, -, own⟩ := compileComponent_provenance s hover.volatile hover.durable "c" served
  exact ⟨_, served, rfl, own along⟩

/-- Whether sessions over documents that fit serve every component that is its own target with its
id. -/
def ServeOwn (fits : NodeId → Document → Prop) : Prop :=
  ∀ (s : Session) (id : NodeId) (o : Outcome), s.Along (fits id) "scenec" "data" →
    s.document.compileTarget? id = some id → (s.compileComponent id false).2.result = .ok o →
    o.bundle.id = id

/-- A document with a variant set and a member of it, or with the member next to the set. -/
def variantDocument (set : Option NodeId) : Document :=
  { name := ""
    placements :=
      [⟨{ id := "k", name := "Set", kind := .componentSet, children := set.toList.map fun _ => "m" },
          some "k", none⟩,
        ⟨{ id := "m", name := "One", kind := .component }, some "m", set⟩] }

/-- A document in which a member of a variant set is found under the id of the set, and the set under
another. -/
def misplacedDocument : Document :=
  { name := ""
    placements :=
      [⟨{ id := "n", name := "One", kind := .component }, some "x", some "k"⟩,
        ⟨{ id := "x", name := "Set", kind := .componentSet }, some "k", none⟩,
        ⟨{ id := "n", name := "One", kind := .component }, some "n", none⟩] }

/-- Not every session serves each component that is its own target with its id. A node can have a bundle
of another component. Even if no document comes with bundles, the table can know a component by the bundle
of a variant set that it was a member of. And even if every component is its own target throughout, the
node that is compiled for it can be called otherwise. -/
theorem not_serveOwn :
    ¬ ServeOwn (fun _ _ => True) ∧
      ¬ ServeOwn (fun id d => d.kept "scenec" "data" id = .ok none) ∧
      ¬ ServeOwn (fun id d => d.kept "scenec" "data" id = .ok none ∧
        d.compileTarget? id = some id) := by
  -- One state in which a component is served with another id suffices.
  have odds {fits : NodeId → Document → Prop} (s : Session) (id other : NodeId)
      (along : s.Along (fits id) "scenec" "data") (own : s.document.compileTarget? id = some id)
      (served : (s.compileComponent id false).2.result.toOption.map (·.bundle.id) = some other)
      (ne : other ≠ id) : ¬ ServeOwn fits := by
    intro h
    cases ho : (s.compileComponent id false).2.result with
    | error e =>
      rw [ho] at served
      cases served
    | ok o =>
      rw [ho] at served
      exact ne ((Option.some.inj served).symm.trans (h s id o along own ho))
  refine ⟨?_, ?_, ?_⟩
  · exact odds straySession "c" "x" (.start rfl rfl trivial) (by decide +kernel) (by decide +kernel)
      (by decide)
  · let member := Session.start {} (variantDocument (some "k"))
    exact odds _ "m" "k"
      (.edit (variantDocument none) (by decide +kernel)
        (.compileComponent "m" false (.start (s := member) rfl rfl (by decide +kernel))))
      (by decide +kernel) (by decide +kernel) (by decide)
  · exact odds (.start {} misplacedDocument) "x" "n"
      (.start rfl rfl (by decide +kernel)) (by decide +kernel) (by decide +kernel) (by decide)

end Session
end Handoff
