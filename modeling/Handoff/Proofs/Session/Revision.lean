import Handoff.Proofs.Bundle.PluginData
import Handoff.Proofs.Cache.NodeData
import Handoff.Proofs.Component.Inspection
import Handoff.Proofs.Scene.Adoption
import Handoff.Proofs.Scene.Difference
import Handoff.Session.Basic

/-!
# What a new snapshot has compiled anew

Going over to a new snapshot compiles the owners of revised nodes: of nodes that are new, and of nodes
whose record names other fields than plugin data and not plugin data. So if a component is not compiled
anew, the nodes that it owns are as they were, as far as a comparison of snapshots can see.
-/

namespace Handoff

namespace Document

variable {before after : Document} {id : NodeId}

/-- What is owned is a node. -/
theorem contains_of_owningTarget? {d : Document} {target : NodeId}
    (h : d.owningTarget? id = some target) : d.contains id = true := by
  rw [contains_eq_isSome]
  unfold owningTarget? at h
  split at h
  · cases h
  · next hn => rw [hn]; rfl

/-- Whether a node is new, or has a record that asks for compilation. -/
def Revises (before : Document) (n : Node) : Prop :=
  ∀ m, before.node? n.id = some m →
    changedFields m n ≠ [] ∧ pluginDataField ∉ changedFields m n

private theorem changeOf?_relevant {n : Node} :
    (∃ c, before.changeOf? n = some c ∧ c.isRelevant = true) ↔ before.Revises n := by
  unfold changeOf? Revises
  cases hm : before.node? n.id with
  | none => simp [Change.isRelevant]
  | some m =>
    cases hf : changedFields m n with
    | nil => simp [hf]
    | cons field rest => simp [hf, Change.isRelevant]

private theorem deletionOf?_irrelevant {n : Node} {c : Change}
    (h : after.deletionOf? n = some c) : c.isRelevant = false := by
  rw [(deletionOf?_eq_some_iff.1 h).2]
  rfl

/-- The owners of revised nodes are compiled. -/
theorem mem_updatedTargets_diff :
    id ∈ (after.updatedTargets (before.diff after)).elems ↔
      ∃ n ∈ after.nodes, before.Revises n ∧ after.owningTarget? n.id = some id := by
  rw [updatedTargets, OrderedSet.mem_ofList, List.mem_filterMap]
  constructor
  · rintro ⟨c, hc, h⟩
    unfold changedTarget? at h
    split at h
    · next hrel =>
      rw [Bool.and_eq_true] at hrel
      rcases List.mem_append.1 hc with hc | hc
      · obtain ⟨n, hn, hnc⟩ := List.mem_filterMap.1 hc
        rw [node_of_changeOf? hnc] at h
        exact ⟨n, hn, changeOf?_relevant.1 ⟨c, hnc, hrel.1⟩, h⟩
      · obtain ⟨n, -, hnc⟩ := List.mem_filterMap.1 hc
        rw [deletionOf?_irrelevant hnc] at hrel
        cases hrel.1
    · cases h
  · rintro ⟨n, hn, revised, owned⟩
    obtain ⟨c, hnc, hrel⟩ := changeOf?_relevant.2 revised
    refine ⟨c, List.mem_append_left _ (List.mem_filterMap.2 ⟨n, hn, hnc⟩), ?_⟩
    rw [changedTarget?, node_of_changeOf? hnc, hrel, contains_of_owningTarget? owned]
    exact owned

private theorem changeOf?_of_changed {m n : Node} (hm : before.node? n.id = some m)
    (h : changedFields m n ≠ []) :
    before.changeOf? n = some
      { kind := .propertyChange, node := n.id, properties := changedFields m n } := by
  unfold changeOf?
  rw [hm]
  cases hf : changedFields m n with
  | nil => exact absurd hf h
  | cons field rest => simp only [hf]

private theorem exists_of_mem_adopted {d previous : Document} {n' : Node}
    (h : n' ∈ (d.adoptPluginData previous).nodes) :
    ∃ n ∈ d.nodes, n'.id = n.id ∧ (n.pluginData.isEmpty = true →
      ∀ m, previous.node? n.id = some m → n'.pluginData = m.pluginData) := by
  rw [adoptPluginData_eq, nodes_mapNodes] at h
  obtain ⟨n, hn, rfl⟩ := List.mem_map.1 h
  refine ⟨n, hn, Node.id_adopting previous n, fun empty m hm => ?_⟩
  rw [adopting_of_found hm, if_pos empty]

/-- Whether all that the module of a target depends on is as it was in an old snapshot, except inside
nodes that the target owns: inspected nodes that other components own are unchanged, and visited nodes
have the looks that they had, and refer to the same names and targets. What differs, differs in what it
says as JSON. -/
structure ChangesWithin (old new : Document) (target : NodeId) : Prop where
  own : old.compileTarget? target = some target
  owned : ∀ n, new.Inspected target n → old.Finds n ∨ new.owningTarget? n.id = some target
  said : ∀ n, new.Inspected target n → ∀ m, old.node? n.id = some m →
    m.bare.toJson.same n.bare.toJson = true → m.bare = n.bare
  looks : ∀ n, new.Visited target n → Style.resolve new n = Style.resolve old n
  references : ∀ n, new.Visited target n → ∀ r ∈ n.references, SameReference new old r

end Document

namespace Session

/-- The changes that a session finds in a new snapshot. -/
def reloadChanges (s : Session) (snapshot : Document) : List Change :=
  s.document.diff (snapshot.adoptPluginData s.document)

/-- The components that a session compiles anew for a new snapshot. -/
def reloadTargets (s : Session) (snapshot : Document) : List NodeId :=
  ((snapshot.adoptPluginData s.document).updatedTargets (s.reloadChanges snapshot)).elems

variable {s : Session} {old new : Document} {id : NodeId}

/-- A component is not compiled anew if at most plugin data is recorded for the nodes that it owns. -/
theorem not_mem_reloadTargets (same : s.document.bare = old.bare)
    (steady : ∀ n ∈ new.nodes, new.owningTarget? n.id = some id → ∃ m, old.node? n.id = some m ∧
      ∀ field ∈ changedFields m n, field = pluginDataField) : id ∉ s.reloadTargets new := by
  intro listed
  obtain ⟨n', hn', revised, owned⟩ := Document.mem_updatedTargets_diff.1 listed
  have adopted : (new.adoptPluginData s.document).bare = new.bare :=
    Document.bare_adoptPluginData s.document
  obtain ⟨n, hn, hb⟩ := Document.exists_mem_nodes_of_bare_eq adopted hn'
  rw [Document.owningTarget?_of_bare_eq adopted, ← Node.id_eq_of_bare hb] at owned
  obtain ⟨m, hm, only⟩ := steady n hn owned
  obtain ⟨m', hm', hbm⟩ := Document.node?_of_bare_eq same.symm hm
  obtain ⟨nonempty, unnamed⟩ := revised m' (by rw [← Node.id_eq_of_bare hb]; exact hm')
  obtain ⟨field, hf⟩ := List.exists_mem_of_ne_nil _ nonempty
  have other : field ≠ pluginDataField := fun he => unnamed (he ▸ hf)
  rw [← mem_changedFields_bare other, hbm, ← hb, mem_changedFields_bare other] at hf
  exact other (only field hf)

/-- The record of a node that takes over its plugin data does not name plugin data. -/
theorem pluginData_not_mem_properties (linked : new.ofNodes? new.nodes = .ok new) {n : Node}
    (hn : new.node? n.id = some n) (empty : n.pluginData.isEmpty = true) {c : Change}
    (hc : c ∈ s.reloadChanges new) (hid : c.node = n.id) : pluginDataField ∉ c.properties := by
  rcases List.mem_append.1 hc with hc | hc
  · obtain ⟨n', hn', hnc⟩ := List.mem_filterMap.1 hc
    have hid' : n'.id = n.id := (Document.node_of_changeOf? hnc).symm.trans hid
    unfold Document.changeOf? at hnc
    split at hnc
    · cases hnc
      simp
    · next m hm =>
      split at hnc
      · cases hnc
      · cases hnc
        obtain ⟨k, hk, hkid, adopts⟩ := Document.exists_of_mem_adopted hn'
        have same : k = n := by
          have found := Document.node?_of_mem linked hk
          rw [← hkid, hid', hn] at found
          exact (Option.some.inj found).symm
        rw [hkid] at hm
        exact pluginData_not_mem_changedFields (adopts (by rw [same]; exact empty) m hm).symm
  · obtain ⟨n', -, hnc⟩ := List.mem_filterMap.1 hc
    unfold Document.deletionOf? at hnc
    split at hnc
    · cases hnc
    · cases hnc
      simp

/-- If a component is not compiled anew, all that extraction inspects for it is as it was, provided that
changes which matter to it lie within what it owns, and no record of an inspected node names plugin data
next to other fields. -/
theorem finds_of_not_mem_reloadTargets (tree : new.TreeShaped) (same : s.document.bare = old.bare)
    (within : old.ChangesWithin new id)
    (unmixed : ∀ n, new.Inspected id n → ∀ c ∈ s.reloadChanges new, c.node = n.id →
      pluginDataField ∈ c.properties → c.properties = [pluginDataField])
    (unlisted : id ∉ s.reloadTargets new) {n : Node} (inspected : new.Inspected id n) :
    old.Finds n := by
  rcases within.owned n inspected with finds | owned
  · exact finds
  · let after := new.adoptPluginData s.document
    have adopted : after.bare = new.bare := Document.bare_adoptPluginData s.document
    obtain ⟨n', hn', hb⟩ :=
      Document.node?_of_bare_eq adopted.symm (tree.node?_of_inspected inspected)
    have hid : n'.id = n.id := Node.id_eq_of_bare hb
    have steady : ¬ s.document.Revises n' := by
      intro revised
      apply unlisted
      refine Document.mem_updatedTargets_diff.2 ⟨n', Document.mem_nodes_of_node? hn', revised, ?_⟩
      rw [hid, Document.owningTarget?_of_bare_eq adopted, owned]
    unfold Document.Revises at steady
    rw [hid] at steady
    simp only [not_forall] at steady
    obtain ⟨m', hm', calm⟩ := steady
    obtain ⟨m, hm, hbm⟩ := Document.node?_of_bare_eq same hm'
    refine ⟨m, hm, within.said n inspected m hm ?_⟩
    rw [hbm, ← hb]
    apply same_of_changedFields
    intro field hf
    -- A record with another field would have asked for compilation, unless it names plugin data, too.
    have nonempty : changedFields m' n' ≠ [] := List.ne_nil_of_mem hf
    have named : pluginDataField ∈ changedFields m' n' :=
      not_not.1 fun absent => calm ⟨nonempty, absent⟩
    have record : s.document.changeOf? n' = some
        { kind := .propertyChange, node := n'.id, properties := changedFields m' n' } :=
      Document.changeOf?_of_changed (by rw [hid]; exact hm') nonempty
    have listed : _ ∈ s.reloadChanges new :=
      List.mem_append_left _ (List.mem_filterMap.2 ⟨n', Document.mem_nodes_of_node? hn', record⟩)
    have only := unmixed n inspected _ listed hid named
    rw [show changedFields m' n' = [pluginDataField] from only] at hf
    exact List.mem_singleton.1 hf

end Session
end Handoff
