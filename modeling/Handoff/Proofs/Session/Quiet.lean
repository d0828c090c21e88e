import Handoff.Proofs.Scene.Sameness
import Handoff.Proofs.Session.Reports

/-!
# The cache does not trigger compilation

Compiling leaves traces in a document, for bundles are kept in the plugin data of nodes. Comparing the
document with the snapshot that was read shows these traces and nothing else, and records of plugin data
alone ask for nothing. So whoever follows a file and reloads a snapshot that has not changed compiles
nothing, however much was compiled before.
-/

namespace Handoff

/-! ## Documents that differ in plugin data -/

namespace Document

variable {d old new : Document}

/-- The record of a node whose plugin data has changed. -/
def pluginDataChange (id : NodeId) : Change :=
  { kind := .propertyChange, node := id, properties := [pluginDataField] }

/-- Whether changes are in plugin data of nodes and in nothing else. -/
def InPluginData (changes : List Change) : Prop := ∀ c ∈ changes, ∃ id, c = pluginDataChange id

/-- Of documents that differ from a document that can be linked in plugin data only, each finds the nodes of
the other. -/
private theorem exists_counterpart (linked : d.ofNodes? d.nodes = .ok d) (hold : old.bare = d.bare)
    (hnew : new.bare = d.bare) {n : Node} (hn : n ∈ new.nodes) :
    ∃ m, old.node? n.id = some m ∧ m.bare = n.bare := by
  obtain ⟨own, hown, same⟩ := exists_mem_nodes_of_bare_eq hnew hn
  obtain ⟨m, found, bare⟩ := node?_of_bare_eq hold.symm (node?_of_mem linked hown)
  rw [Node.id_eq_of_bare same] at found
  exact ⟨m, found, bare.trans same⟩

/-- Between documents that differ from a document that can be linked in plugin data only, nothing but plugin
data is recorded. -/
theorem inPluginData_diff (linked : d.ofNodes? d.nodes = .ok d) (hold : old.bare = d.bare)
    (hnew : new.bare = d.bare) : InPluginData (old.diff new) := by
  intro c hc
  rcases List.mem_append.1 hc with hc | hc
  · obtain ⟨n, hn, recorded⟩ := List.mem_filterMap.1 hc
    obtain ⟨m, found, same⟩ := exists_counterpart linked hold hnew hn
    rcases changedFields_of_bare_eq same with none | one
    · simp only [changeOf?, found, none] at recorded
      cases recorded
    · simp only [changeOf?, found, one] at recorded
      exact ⟨n.id, (Option.some.inj recorded).symm⟩
  · obtain ⟨n, hn, recorded⟩ := List.mem_filterMap.1 hc
    obtain ⟨m, found, -⟩ := exists_counterpart linked hnew hold hn
    rw [deletionOf?, contains_eq_isSome, found] at recorded
    cases recorded

/-- Changes in plugin data ask for nothing. -/
theorem updatedTargets_of_inPluginData {changes : List Change} (h : InPluginData changes) :
    (d.updatedTargets changes).elems = [] := by
  have none : changes.filterMap d.changedTarget? = [] := by
    rw [List.filterMap_eq_nil_iff]
    intro c hc
    obtain ⟨id, rfl⟩ := h c hc
    rfl
  rw [updatedTargets, none]
  rfl

end Document

/-! ## Sessions -/

namespace Session

/-- The sessions that come of a session when components are compiled in passes, one by one, or by loading
all of them. -/
inductive Compiles (s : Session) : Session → Prop where
  | nothing : Compiles s s
  | pass {s' : Session} (components targets : List NodeId) (skipCache : Bool) :
    Compiles s s' → Compiles s (s'.compile components targets skipCache).1
  | component {s' : Session} (id : NodeId) (skipCache : Bool) :
    Compiles s s' → Compiles s (s'.compileComponent id skipCache).1
  | load {s' : Session} : Compiles s s' → Compiles s s'.load.1

variable {s s' : Session}

/-- Compiling components changes plugin data only. -/
theorem Compiles.bare_eq (h : s.Compiles s') : s'.document.bare = s.document.bare := by
  induction h with
  | nothing => rfl
  | pass components targets skipCache _ ih => exact (bare_compile ..).trans ih
  | component id skipCache _ ih => exact (Store.bare_serve ..).trans ih
  | load _ ih =>
    exact load_keeps (P := fun t => t.document.bare = s.document.bare)
      (fun t _ _ _ same => (bare_compile t ..).trans same) ih

/-- Following changes in plugin data does nothing. -/
theorem handleChanges_of_inPluginData {changes : List Change} (h : Document.InPluginData changes) :
    s.handleChanges changes = (s, { result := none }) :=
  handleChanges_of_nothing (.inr (Document.updatedTargets_of_inPluginData h))

/-- Reloading a snapshot that differs from the document in plugin data only goes over to it and does nothing
else. -/
theorem reload_of_bare_eq {d : Document} (linked : d.ofNodes? d.nodes = .ok d)
    (same : s.document.bare = d.bare) :
    s.reload d = (s.withDocument (d.adoptPluginData s.document),
      { result := (s.document.diff (d.adoptPluginData s.document), none) }) := by
  have quiet := Document.inPluginData_diff linked same (Document.bare_adoptPluginData s.document)
  unfold reload
  simp only [handleChanges_of_inPluginData quiet]
  split
  · next none => rw [List.isEmpty_iff.1 none]
  · rfl

/-- The cache never triggers itself. Let a document be read from a snapshot, and let a session over it, with
any tiers, compile components in passes, one by one, or by loading all of them, as often as it will. The
changes from the document that was read to the one that the session has are in plugin data only, and they
ask for nothing. Reloading the snapshot records changes in plugin data only, runs no pass, reports nothing,
and leaves the session with its volatile tier as it was, but for the plugin data of its document. -/
theorem cache_triggers_nothing {source : String} {d : Document} (read : Document.parse source = .ok d)
    (hd : s.document = d) (calls : s.Compiles s') :
    Document.InPluginData (d.diff s'.document) ∧
      (s'.document.updatedTargets (d.diff s'.document)).elems = [] ∧
      Document.InPluginData (s'.reload d).2.result.1 ∧ (s'.reload d).2.result.2 = none ∧
      (s'.reload d).2.events = [] ∧ (s'.reload d).1.store.volatile = s'.store.volatile ∧
      (s'.reload d).1 = s'.withDocument (d.adoptPluginData s'.document) := by
  subst hd
  have linked := Document.linked_of_parse read
  have same := calls.bare_eq
  have quiet := Document.inPluginData_diff linked rfl same
  rw [reload_of_bare_eq linked same]
  exact ⟨quiet, Document.updatedTargets_of_inPluginData quiet,
    Document.inPluginData_diff linked same (Document.bare_adoptPluginData _), rfl, rfl, rfl, rfl⟩

/-- A snapshot with a component that carries the data of another tool. -/
def notedSource : String :=
  "\x7b\"name\": \"\", \"nodes\": [\x7b\"type\": \"COMPONENT\", \"id\": \"b\", \"name\": \"Badge\", " ++
    "\"pluginData\": \x7b\"notes\": \x7b\"author\": \"me\"\x7d\x7d\x7d]\x7d"

/-- The document of that snapshot. -/
def notedDocument : Document :=
  Document.filed
    [{ id := "b", name := "Badge", kind := .component
       pluginData := SortedMap.empty.insert "notes" (SortedMap.empty.insert "author" "me") }]

/-- The tools that keep data on the component. -/
def toolsOfBadge (d : Document) : Option (List String) := (d.node? "b").map (·.pluginData.keys)

/-- The component is loaded and compiled once more, and a bundle is kept on its node. The node of the
snapshot carries data, so reloading takes nothing over, and the bundle on the node is lost; still nothing
is compiled. -/
theorem cache_triggers_nothing_noted :
    let s := ((Session.start {} notedDocument).load.1.compileComponent "b" true).1
    toolsOfBadge s.document = some ["notes", "scenec"] ∧
      Document.InPluginData (notedDocument.diff s.document) ∧
      toolsOfBadge (s.reload notedDocument).1.document = some ["notes"] ∧
      (s.reload notedDocument).2.result.2 = none ∧ (s.reload notedDocument).2.events = [] := by
  intro s
  have read : Document.parse notedSource = .ok notedDocument := by decide +kernel
  have calls : (Session.start {} notedDocument).Compiles s := .component "b" true (.load .nothing)
  obtain ⟨changes, -, -, idle, silent, -, after⟩ := cache_triggers_nothing read rfl calls
  have adopted : toolsOfBadge (notedDocument.adoptPluginData s.document) = some ["notes"] := by
    decide +kernel
  exact ⟨by decide +kernel, changes, by rw [after]; exact adopted, idle, silent⟩

end Session
end Handoff
