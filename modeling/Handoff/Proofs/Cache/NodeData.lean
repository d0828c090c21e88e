import Handoff.Cache.Store
import Handoff.Proofs.Bundle.AssetSizes

/-!
# Bundles kept on nodes

What the durable tier reads after a bundle has been written: the written bundle at its own id and what
was there before at every other id.
-/

namespace Handoff

namespace Document

variable {d : Document}

/-- Changing one node leaves every placement where it is. -/
theorem place?_modifyNode (id : NodeId) (f : Node → Node) (k : NodeId) :
    (d.modifyNode id f).place? k =
      (d.place? k).map fun p => if k = id then { p with node := f p.node } else p := by
  have key (p : Placement) :
      (if p.key = some id then { p with node := f p.node } else p).key = p.key := by
    split <;> rfl
  have found : (d.modifyNode id f).place? k = (d.place? k).map fun p =>
      if p.key = some id then { p with node := f p.node } else p := by
    show (d.placements.map _).find? _ = _
    rw [List.find?_map]
    congr 2
    funext p
    simp only [Function.comp, key]
  rw [found]
  cases h : d.place? k with
  | none => rfl
  | some p =>
    have hk := key_of_place? h
    by_cases he : k = id
    · simp [he, hk]
    · simp [he, hk]

/-- Changing one node changes what is found at its id only. -/
theorem node?_modifyNode (id : NodeId) (f : Node → Node) (k : NodeId) :
    (d.modifyNode id f).node? k = (d.node? k).map fun n => if k = id then f n else n := by
  rw [node?, place?_modifyNode, node?, Option.map_map, Option.map_map]
  congr 1
  funext p
  simp only [Function.comp]
  split <;> rfl

/-- A document contains the ids under which it finds nodes. -/
theorem contains_eq_isSome (id : NodeId) : d.contains id = (d.node? id).isSome := by
  rw [contains, node?, Option.isSome_map]

/-- What compiles is a node. -/
theorem node?_of_compile {s : Settings} {id : NodeId} {b : Bundle}
    (h : (d.compile s id).2 = .ok b) : ∃ n, d.node? id = some n := by
  cases hn : d.node? id with
  | some n => exact ⟨n, rfl⟩
  | none => simp [compile, describe, hn] at h

end Document

/-- A value that is kept is found again. -/
theorem Node.pluginValue?_setPluginValue (n : Node) (namespaceName key value : String) :
    (n.setPluginValue namespaceName key value).pluginValue? namespaceName key = some value := by
  simp [pluginValue?, setPluginValue, SortedMap.get?_insert]

/-- Keeping a value leaves the values at other places. -/
theorem Node.pluginValue?_setPluginValue_of_ne (n : Node) {namespaceName key other otherKey : String}
    (h : ¬ (other = namespaceName ∧ otherKey = key)) (value : String) :
    (n.setPluginValue namespaceName key value).pluginValue? other otherKey =
      n.pluginValue? other otherKey := by
  rw [pluginValue?, setPluginValue, SortedMap.get?_insert, pluginValue?]
  by_cases same : other = namespaceName
  · have apart : otherKey ≠ key := fun hk => h ⟨same, hk⟩
    rw [if_pos same, same, Option.bind_some, SortedMap.get?_insert, if_neg apart]
    cases n.pluginData.get? namespaceName <;> rfl
  · rw [if_neg same]

/-- What the node-data tier reads. -/
def Document.kept (d : Document) (namespaceName key : String) (id : NodeId) :
    Except CompileError (Option Bundle) :=
  (Tier.nodeData namespaceName key).read d id

namespace Document

variable {d e : Document} {namespaceName key : String}

/-- The node-data tier depends on the plugin data of the node that is found. -/
theorem kept_congr {id : NodeId}
    (h : (d.node? id).map (·.pluginData) = (e.node? id).map (·.pluginData)) :
    d.kept namespaceName key id = e.kept namespaceName key id := by
  have payload (d : Document) : Tier.payload? d namespaceName key id =
      (((d.node? id).map (·.pluginData)).bind
        fun data => (data.get? namespaceName).bind (·.get? key)).filter (!·.isEmpty) := by
    rw [Tier.payload?, pluginValue?]
    cases d.node? id <;> rfl
  rw [kept, kept, Tier.read, Tier.read, payload, payload, h]

/-- The document after a bundle has been written to a node. -/
def keeping (d : Document) (namespaceName key : String) (id : NodeId) (b : Bundle) : Document :=
  d.modifyNode id (·.setPluginValue namespaceName key b.print)

/-- Writing a bundle changes plugin data only. -/
theorem bare_keeping (id : NodeId) (b : Bundle) :
    (d.keeping namespaceName key id b).bare = d.bare :=
  bare_modifyNode id fun _ => rfl

/-- A bundle that has been written to a node is read there. -/
theorem kept_keeping {id : NodeId} {n : Node} {b : Bundle} (hn : d.node? id = some n)
    (hb : b.SizesReadBack) : (d.keeping namespaceName key id b).kept namespaceName key id =
      .ok (some b) := by
  have found : (d.keeping namespaceName key id b).node? id =
      some (n.setPluginValue namespaceName key b.print) := by
    rw [keeping, node?_modifyNode, hn, Option.map_some, if_pos rfl]
  have payload : Tier.payload? (d.keeping namespaceName key id b) namespaceName key id =
      some b.print := by
    rw [Tier.payload?, pluginValue?, found, Option.bind_some, Node.pluginValue?_setPluginValue,
      Option.filter_some, Bundle.isEmpty_print]
    rfl
  rw [kept, Tier.read, payload]
  simp only [Bundle.parse?_print hb]

/-- Writing a bundle to one node leaves what other nodes keep. -/
theorem kept_keeping_of_ne {other otherKey : String} {id k : NodeId} (h : k ≠ id) (b : Bundle) :
    (d.keeping namespaceName key id b).kept other otherKey k = d.kept other otherKey k := by
  apply kept_congr
  rw [keeping, node?_modifyNode, Option.map_map]
  congr 1
  funext n
  simp only [Function.comp, if_neg h]

/-- Writing a bundle to a node leaves what nodes keep at other places. -/
theorem kept_keeping_elsewhere {other otherKey : String} {id : NodeId}
    (h : ¬ (other = namespaceName ∧ otherKey = key)) (b : Bundle) (k : NodeId) :
    (d.keeping namespaceName key id b).kept other otherKey k = d.kept other otherKey k := by
  have value : (d.keeping namespaceName key id b).pluginValue? k other otherKey =
      d.pluginValue? k other otherKey := by
    rw [pluginValue?, keeping, node?_modifyNode, pluginValue?]
    cases d.node? k with
    | none => rfl
    | some n =>
      rw [Option.map_some, Option.bind_some, Option.bind_some]
      split
      · exact n.pluginValue?_setPluginValue_of_ne h _
      · rfl
  rw [kept, kept, Tier.read, Tier.read, Tier.payload?, Tier.payload?, value]

end Document
end Handoff
