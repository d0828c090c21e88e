import Handoff.Proofs.Cache.Footprint
import Handoff.Proofs.Session.Discovery
import Handoff.Proofs.Session.Load
import Handoff.Proofs.Bundle.Locality

/-!
# The scope of changes

Following changes has effects only on the components that the changes ask to compile: only their nodes
are written to, and only the value that the durable tier keeps there; every other component keeps what
both tiers have for it; every event reports one of them. If nothing is asked for, nothing happens.
-/

namespace Handoff

variable {settings : Settings} {namespaceName key : String} {skipCache : Bool} {m : OrderedMap Bundle}
  {d : Document}

/-! ## Events of passes -/

namespace PassState

variable {p : PassState} {id : NodeId}

/-- A step keeps the number of its pass. -/
theorem pass_step : (step settings skipCache p id).summary.pass = p.summary.pass := by
  unfold step
  split
  · rfl
  · split
    · next o _ =>
      show (countServed p.summary o.cached).pass = p.summary.pass
      unfold countServed
      split <;> rfl
    · rfl

/-- A step adds at most the report that a component was built. -/
theorem mem_events_step {e : Event} (h : e ∈ (step settings skipCache p id).events) :
    e ∈ p.events ∨ ∃ state b, e = .build p.summary.pass state b := by
  unfold step at h
  split at h
  · exact .inl h
  · split at h
    · rcases List.mem_append.1 h with h | h
      · exact .inl h
      · exact .inr ⟨_, _, List.mem_singleton.1 h⟩
    · exact .inl h

/-- The steps of a pass add reports that components were built. -/
theorem mem_events_foldl_step {e : Event} {targets : List NodeId}
    (h : e ∈ (targets.foldl (step settings skipCache) p).events) :
    e ∈ p.events ∨ ∃ state b, e = .build p.summary.pass state b := by
  induction targets generalizing p with
  | nil => exact .inl h
  | cons id rest ih =>
    rcases ih h with h | built
    · exact mem_events_step h
    · rw [pass_step] at built
      exact .inr built

end PassState

namespace Session

variable {s : Session} {changes : List Change} {id : NodeId}

/-- All events of a pass report that components were built in it. -/
theorem mem_events_compile {components targets : List NodeId} {e : Event}
    (h : e ∈ (s.compile components targets skipCache).2.events) :
    ∃ state b, e = .build (s.pass + 1) state b := by
  rcases PassState.mem_events_foldl_step h with h | built
  · cases h
  · exact built

/-! ## Following changes -/

/-- The components that changes ask a session to compile. -/
def asked (s : Session) (changes : List Change) : List NodeId :=
  (s.document.updatedTargets changes).elems

/-- Without components, and without components that are asked for, nothing happens. -/
theorem handleChanges_of_nothing (h : s.document.discover.elems = [] ∨ s.asked changes = []) :
    s.handleChanges changes = (s, { result := none }) := by
  unfold handleChanges
  simp only
  rw [if_pos]
  rw [Bool.or_eq_true, List.isEmpty_iff, List.isEmpty_iff]
  exact h

/-- Where there are components and something is asked for, following changes is a pass. -/
theorem handleChanges_of_asked (h : ¬ (s.document.discover.elems = [] ∨ s.asked changes = [])) :
    (s.handleChanges changes).1 =
        (s.compile s.document.discover.elems (s.asked changes) true).1 ∧
      (s.handleChanges changes).2.events =
        (s.compile s.document.discover.elems (s.asked changes) true).2.events := by
  have some : ¬ (s.document.discover.elems.isEmpty || (s.asked changes).isEmpty) = true := by
    rw [Bool.or_eq_true, List.isEmpty_iff, List.isEmpty_iff]
    exact h
  unfold asked at some ⊢
  unfold handleChanges
  simp only [if_neg some, and_self]

/-- Where every node is found under its own id, a component that changes ask for carries the id under
which it is asked for. -/
theorem id_of_compile_of_asked (keyed : d.Keyed) {b : Bundle}
    (mem : id ∈ (d.updatedTargets changes).elems) (built : (d.compile settings id).2 = .ok b) :
    b.id = id := by
  obtain ⟨c, -, hc⟩ := List.mem_filterMap.1 (OrderedSet.mem_ofList.1 mem)
  have owned := (Document.changedTarget?_eq_some_iff.1 hc).2.2
  obtain ⟨owner, -, -, howner⟩ := Document.exists_owner owned
  obtain ⟨target, t, htarget, ht, carried⟩ := Document.id_of_compile built
  rw [Document.compileTarget?_of_compileTarget? keyed howner] at htarget
  cases htarget
  rw [carried, keyed _ _ ht]

/-- What following changes does to a session over a table and the nodes of its document. The document
keeps everything but the values of the durable tier on the nodes of components that are asked for and
compile. A component that is not asked for keeps its entry in the table and its text on the node; one
that is asked for and compiles has its new bundle in both places. Every event reports the bundle that
one of the components asked for compiles to. -/
theorem handleChanges_effect (h : s.store.Over namespaceName key m d) (changes : List Change)
    (work : ¬ (d.discover.elems = [] ∨ s.asked changes = [])) :
    ∃ m' d', (s.handleChanges changes).1.store.Over namespaceName key m' d' ∧
      d.WritesOnly namespaceName key (d.Compiles s.settings (s.asked changes)) d' ∧
      (∀ id ∈ d.discover.elems, ¬ d.Compiles s.settings (s.asked changes) id → m'.get? id = m.get? id) ∧
      (∀ id ∈ s.asked changes, d.isIcon id = false → ∀ b, (d.compile s.settings id).2 = .ok b →
        m'.get? id = some b ∧ d'.pluginValue? id namespaceName key = some b.print) ∧
      ∀ e ∈ (s.handleChanges changes).2.events, ∃ state b, ∃ id ∈ s.asked changes,
        e = .build (s.pass + 1) state b ∧ (d.compile s.settings id).2 = .ok b := by
  have doc : s.document = d := h.document
  obtain ⟨state, events⟩ := handleChanges_of_asked (s := s) (by rw [doc]; exact work)
  obtain ⟨results, m', d', run, hover, -, bundles⟩ :=
    compile_run h d.discover.elems (s.asked changes) true
  rw [state, events, doc]
  refine ⟨m', d', hover, run.writesOnly, fun id found kept => ?_, fun id mem hicon b built => ?_,
    fun e he => ?_⟩
  · rw [run.get?_of_not_compiles kept, OrderedMap.get?_filterKeys, if_pos (by simpa using found)]
  · exact ⟨(run.bundle_of_fresh run.fresh_of_skip mem hicon built).1,
      run.pluginValue?_of_compiles mem hicon built⟩
  · obtain ⟨project, b, rfl⟩ := mem_events_compile he
    have reported := List.mem_filterMap.2 ⟨_, he, show Event.bundle? _ = some b from rfl⟩
    rw [bundles, run.bundles_of_fresh run.fresh_of_skip] at reported
    obtain ⟨id, mem, hb⟩ := List.mem_filterMap.1 reported
    refine ⟨project, b, id, List.mem_of_mem_filter mem, rfl, ?_⟩
    cases hc : (d.compile s.settings id).2 with
    | error e =>
      rw [hc] at hb
      cases hb
    | ok b' =>
      rw [hc] at hb
      cases hb
      rfl

/-- Changes have effects only on the components that they ask to compile. In a session with a table and
the nodes of the document, following changes leaves the document as it is but for the values that the
durable tier keeps on the nodes of components that are asked for and compile. A discovered component that
is not asked for keeps what the table has for it and the text on its node, and so does one that is an icon
or does not compile; one that compiles has its new bundle in the table and the text of it on its node.
Every event is a report in the next pass that a component which is asked for was built, with the bundle
that compiling it yields, and with its id where every node is found under its own id. If nothing is
discovered or nothing is asked for, there is no event and the session stays as it is. -/
theorem handleChanges_scoped (s : Session) {entries : OrderedMap Bundle}
    (volatile : s.store.volatile = .memory entries)
    (durable : s.store.durable = .ofSettings s.settings.cache) (changes : List Change) :
    let place := s.settings.cache
    let after := (s.handleChanges changes).1
    s.document.WritesOnly place.namespaceName place.key
        (s.document.Compiles s.settings (s.asked changes)) after.document ∧
      (∀ id ∈ s.document.discover.elems, ¬ s.document.Compiles s.settings (s.asked changes) id →
        after.store.volatile? id = s.store.volatile? id ∧
          after.document.pluginValue? id place.namespaceName place.key =
            s.document.pluginValue? id place.namespaceName place.key) ∧
      (s.document.discover.elems ≠ [] → ∀ id ∈ s.asked changes, s.document.isIcon id = false →
        ∀ b, (s.document.compile s.settings id).2 = .ok b →
          after.store.volatile? id = some b ∧
            after.document.pluginValue? id place.namespaceName place.key = some b.print) ∧
      (∀ e ∈ (s.handleChanges changes).2.events, ∃ state b, ∃ id ∈ s.asked changes,
        e = .build (s.pass + 1) state b ∧ (s.document.compile s.settings id).2 = .ok b ∧
          (s.document.Keyed → b.id = id)) ∧
      (s.document.discover.elems = [] ∨ s.asked changes = [] →
        s.handleChanges changes = (s, { result := none })) := by
  have start : s.store.Over s.settings.cache.namespaceName s.settings.cache.key entries s.document :=
    ⟨volatile, durable, rfl⟩
  have nothing : s.document.discover.elems = [] ∨ s.asked changes = [] →
      s.handleChanges changes = (s, { result := none }) := handleChanges_of_nothing
  -- Without components or targets the session stays as it is, and all parts are trivial.
  by_cases idle : s.document.discover.elems = [] ∨ s.asked changes = []
  · refine ⟨?_, ?_, ?_, ?_, nothing⟩
    · rw [nothing idle]
      exact .refl _
    · rw [nothing idle]
      exact fun _ _ _ => ⟨rfl, rfl⟩
    · intro found id mem
      rw [idle.resolve_left found] at mem
      cases mem
    · rw [nothing idle]
      exact fun e he => by cases he
  · obtain ⟨m', d', hover, writes, kept, fresh, reports⟩ := handleChanges_effect start changes idle
    have document : (s.handleChanges changes).1.document = d' := hover.document
    have table (id : NodeId) : (s.handleChanges changes).1.store.volatile? id = m'.get? id := by
      rw [Store.volatile?, hover.volatile, Tier.read_memory]
    have known (id : NodeId) : s.store.volatile? id = entries.get? id := by
      rw [Store.volatile?, volatile, Tier.read_memory]
    refine ⟨?_, fun id found unasked => ?_, fun _ id mem hicon b built => ?_, fun e he => ?_, nothing⟩
    · rw [document]
      exact writes
    · rw [table, known, document]
      exact ⟨kept id found unasked, writes.pluginValue?_eq unasked _ _⟩
    · rw [table, document]
      exact fresh id mem hicon b built
    · obtain ⟨state, b, id, mem, rfl, built⟩ := reports e he
      exact ⟨state, b, id, mem, rfl, built, fun keyed => id_of_compile_of_asked keyed mem built⟩

/-- A session over a gallery, with a bundle of another component for the card in its table. -/
def gallerySession : Session :=
  { settings := {}
    store :=
      { document := Document.laterGallery
        volatile := .memory (OrderedMap.empty.insert "a" (strayBundle "x"))
        durable := .ofSettings {} } }

/-- A new label asks for the button, which then has its bundle. The card keeps what the table has for
it, and its node keeps what a tool wrote there. -/
theorem handleChanges_gallerySession :
    let relabel : Change := { kind := .propertyChange, node := "t", properties := ["name"] }
    let after := (gallerySession.handleChanges [relabel]).1
    gallerySession.asked [relabel] = ["b"] ∧
      after.store.volatile? "a" = some (strayBundle "x") ∧
      after.document.pluginValue? "a" "notes" "seen" = some "yes" ∧
      ∃ b, after.store.volatile? "b" = some b ∧ b.id = "b" := by
  intro relabel after
  have asked : gallerySession.asked [relabel] = ["b"] := by decide +kernel
  obtain ⟨writes, kept, fresh, -⟩ := handleChanges_scoped gallerySession rfl rfl [relabel]
  have unasked : ¬ gallerySession.document.Compiles {} (gallerySession.asked [relabel]) "a" := by
    rw [asked]
    exact fun h => absurd h.1 (by decide)
  have keyed : gallerySession.document.Keyed :=
    Document.keyed_of_linked
      (show gallerySession.document.ofNodes? gallerySession.document.nodes = .ok gallerySession.document by
        decide +kernel)
  have compiles : (gallerySession.document.compile {} "b").2.toOption.isSome = true := by
    decide +kernel
  refine ⟨asked, (kept "a" (by decide +kernel) unasked).1.trans (by decide +kernel),
    (writes.pluginValue?_eq unasked "notes" "seen").trans (by decide +kernel), ?_⟩
  cases hb : (gallerySession.document.compile {} "b").2 with
  | error e =>
    rw [hb] at compiles
    cases compiles
  | ok b =>
    have mem : "b" ∈ gallerySession.asked [relabel] := by rw [asked]; exact List.mem_singleton_self _
    exact ⟨b, (fresh (by decide +kernel) "b" mem (by decide +kernel) b hb).1,
      id_of_compile_of_asked keyed mem hb⟩

end Session
end Handoff
