import Handoff.Proofs.Component.Simulation
import Handoff.Scene.Edit

/-!
# Compilation cannot see plugin data

What tools keep on nodes has no influence on what is compiled: a document and the same document without
plugin data have the same components, icons and bundles. So keeping a bundle on a node, or taking over
the plugin data of an earlier snapshot, never changes a later result.
-/

namespace Handoff.Document

variable {d e : Document}

/-- Forgetting plugin data does not change what renders below a node. -/
theorem renderedChildren_bare (id : NodeId) :
    d.bare.renderedChildren id = (d.renderedChildren id).map Node.bare := by
  rw [renderedChildren, bare, children_mapNodes Node.frames_bare, List.filter_map]
  rfl

private theorem found_bare (id : NodeId) :
    (d.node? id).map Node.bare = (d.bare.node? id).map Node.bare := by
  rw [bare, node?_mapNodes, Option.map_map]
  rfl

private theorem sameReference_bare (id : NodeId) : SameReference d d.bare id := by
  constructor
  · rw [bare, node?_mapNodes, Option.map_map]
    rfl
  · rw [bare, targetName?_mapNodes Node.frames_bare]

private theorem forall₂_map_bare (fuel : Nat) (l : List Node) :
    List.Forall₂ (fun n m => fuel = fuel ∧ m = n.bare) l (l.map Node.bare) := by
  induction l with
  | nil => exact .nil
  | cons n rest ih => exact .cons ⟨rfl, rfl⟩ ih

private theorem simulates_bare (d : Document) :
    Simulates d d.bare (fun f n g m => f = g ∧ m = n.bare) where
  depth h := by rw [h.1]
  bare h := by rw [h.2]; rfl
  looks h := by rw [h.2, resolve_bare]; exact resolve_congr rfl rfl
  found h := by rw [h.2]; exact found_bare _
  references h r _ := sameReference_bare r
  below h _ := by
    obtain ⟨hf, rfl⟩ := h
    obtain rfl := Nat.succ.inj hf
    show List.Forall₂ _ _ (d.bare.renderedChildren _)
    rw [Node.bare, renderedChildren_bare]
    exact forall₂_map_bare _ _

private theorem describe_bare (id : NodeId) (selected : Option NodeId) :
    d.bare.describe id selected = d.describe id selected := by
  rw [bare, describe_mapNodes Node.frames_bare (fun _ => rfl) (fun _ => rfl) (fun _ => rfl)
    (g := fun properties => properties) fun _ _ => rfl]
  cases d.describe id selected <;> rfl

private theorem extract_bare (descriptor : Descriptor) :
    d.extract descriptor = d.bare.extract descriptor := by
  have same (fuel : Nat) (n : Node) : Simulates.Roots d d.bare
      (fun f n g m => f = g ∧ m = n.bare) fuel fuel n n.bare := by
    refine ⟨rfl, resolve_congr rfl rfl, ?_⟩
    rw [show n.bare.id = n.id from rfl, renderedChildren_bare]
    exact forall₂_map_bare _ _
  have bound : d.bare.walkBound = d.walkBound := walkBound_mapNodes
  have size : d.bare.placements.length = d.placements.length := by
    rw [bare, mapNodes, List.length_map]
  have found : d.bare.node? descriptor.rootNode = (d.node? descriptor.rootNode).map Node.bare :=
    node?_mapNodes
  cases h : d.node? descriptor.rootNode with
  | none =>
    rw [h] at found
    simp only [extract, h, found, Option.map_none]
  | some root =>
    rw [h, Option.map_some] at found
    apply (simulates_bare d).extract_eq h found
    · rw [bound]
      exact same _ root
    · intro _
      have members : d.bare.otherMembers descriptor = (d.otherMembers descriptor).map Node.bare := by
        rw [otherMembers, bare, children_mapNodes Node.frames_bare, List.filter_map]
        rfl
      rw [members, size]
      induction d.otherMembers descriptor with
      | nil => exact .nil
      | cons n rest ih => exact .cons (same _ n) ih

/-- A document without plugin data compiles as it does with it. -/
theorem compile_bare (s : Settings) (id : NodeId) : d.bare.compile s id = d.compile s id := by
  have selected : d.bare.selectedChild? id = d.selectedChild? id :=
    selectedChild?_mapNodes Node.frames_bare
  symm
  apply compile_congr
  · rfl
  · rfl
  · rfl
  · exact (iconSources_mapNodes Node.frames_bare).symm
  · rw [selected, describe_bare]
  · intro descriptor _
    exact extract_bare descriptor

/-- Documents that differ in plugin data only compile alike. -/
theorem compile_of_bare_eq (h : d.bare = e.bare) (s : Settings) (id : NodeId) :
    d.compile s id = e.compile s id := by
  rw [← compile_bare, h, compile_bare]

/-- Documents that differ in plugin data only describe components alike. -/
theorem describe_of_bare_eq (h : d.bare = e.bare) (id : NodeId) (selected : Option NodeId) :
    d.describe id selected = e.describe id selected := by
  rw [← describe_bare, h, describe_bare]

/-- Documents that differ in plugin data only have the same components. -/
theorem discover_of_bare_eq (h : d.bare = e.bare) : d.discover = e.discover := by
  have hd : d.bare.discover = d.discover := discover_mapNodes Node.frames_bare
  have he : e.bare.discover = e.discover := discover_mapNodes Node.frames_bare
  rw [← hd, h, he]

/-- Documents that differ in plugin data only have the same icons. -/
theorem isIcon_of_bare_eq (h : d.bare = e.bare) (id : NodeId) : d.isIcon id = e.isIcon id := by
  have hd : d.bare.isIcon id = d.isIcon id := isIcon_mapNodes Node.frames_bare
  have he : e.bare.isIcon id = e.isIcon id := isIcon_mapNodes Node.frames_bare
  rw [← hd, h, he]

/-- Documents that differ in plugin data only leave out the same targets. -/
theorem not_isIcon_of_bare_eq (h : d.bare = e.bare) :
    (fun id => !d.isIcon id) = fun id => !e.isIcon id :=
  funext fun id => congrArg (!·) (isIcon_of_bare_eq h id)

/-- Documents that differ in plugin data only find the same nodes but for plugin data. -/
theorem node?_of_bare_eq (h : d.bare = e.bare) {id : NodeId} {n : Node} (hn : d.node? id = some n) :
    ∃ m, e.node? id = some m ∧ m.bare = n.bare := by
  have found (d : Document) : d.bare.node? id = (d.node? id).map Node.bare := node?_mapNodes
  have same : (e.node? id).map Node.bare = some n.bare := by
    rw [← found, ← h, found, hn, Option.map_some]
  exact Option.map_eq_some_iff.1 same

/-- Documents that differ in plugin data only have the same nodes but for plugin data. -/
theorem exists_mem_nodes_of_bare_eq (h : d.bare = e.bare) {n : Node} (hn : n ∈ d.nodes) :
    ∃ m ∈ e.nodes, m.bare = n.bare := by
  have listed (d : Document) : d.bare.nodes = d.nodes.map Node.bare := nodes_mapNodes
  have mem : n.bare ∈ e.nodes.map Node.bare := by
    rw [← listed, ← h, listed]
    exact List.mem_map_of_mem hn
  exact List.mem_map.1 mem

/-- Documents that differ in plugin data only have the same owners. -/
theorem owningTarget?_of_bare_eq (h : d.bare = e.bare) (id : NodeId) :
    d.owningTarget? id = e.owningTarget? id := by
  have hd : d.bare.owningTarget? id = d.owningTarget? id := owningTarget?_mapNodes Node.frames_bare
  have he : e.bare.owningTarget? id = e.owningTarget? id := owningTarget?_mapNodes Node.frames_bare
  rw [← hd, h, he]

/-- A change of one node that touches plugin data only is not seen without plugin data. -/
theorem bare_modifyNode (id : NodeId) {f : Node → Node} (hf : ∀ n, (f n).bare = n.bare) :
    (d.modifyNode id f).bare = d.bare :=
  mapNodes_modifyNode hf

/-- Taking over plugin data is not seen without plugin data. -/
theorem bare_adoptPluginData (previous : Document) : (d.adoptPluginData previous).bare = d.bare := by
  unfold bare mapNodes adoptPluginData
  simp only [List.map_map]
  congr 1
  apply List.map_congr_left
  intro p _
  simp only [Function.comp]
  split
  · split <;> rfl
  · rfl

end Handoff.Document
