import Handoff.Bundle.Compile
import Handoff.Scene.Edit

/-!
# Documents with changed nodes

Changing every node of a document in place, without touching what nodes are found and related by,
changes every answer of the document in the same way. Forgetting plugin data is such a change.
-/

namespace Handoff

/-- Whether a change of nodes keeps their ids, names, kinds, child lists and main components. -/
structure Node.Frames (f : Node → Node) : Prop where
  id : ∀ n, (f n).id = n.id
  name : ∀ n, (f n).name = n.name
  kind : ∀ n, (f n).kind = n.kind
  children : ∀ n, (f n).children = n.children
  mainComponent : ∀ n, (f n).mainComponent = n.mainComponent

/-- A node without the data that tools keep on it. -/
def Node.bare (n : Node) : Node := { n with pluginData := .empty }

/-- Forgetting plugin data keeps everything else. -/
theorem Node.frames_bare : Frames bare :=
  ⟨fun _ => rfl, fun _ => rfl, fun _ => rfl, fun _ => rfl, fun _ => rfl⟩

/-- Nodes that agree without plugin data agree in all that does not depend on it. -/
theorem Node.eq_of_bare {α : Type} {f : Node → α} (keeps : ∀ n : Node, f n.bare = f n) {n m : Node}
    (h : n.bare = m.bare) : f n = f m := by
  rw [← keeps n, h, keeps m]

/-- Nodes that agree without plugin data have the same id. -/
theorem Node.id_eq_of_bare {n m : Node} (h : n.bare = m.bare) : n.id = m.id :=
  eq_of_bare (fun _ => rfl) h

/-- Nodes that agree without plugin data have the same name. -/
theorem Node.name_eq_of_bare {n m : Node} (h : n.bare = m.bare) : n.name = m.name :=
  eq_of_bare (fun _ => rfl) h

/-- Nodes that agree without plugin data have the same kind. -/
theorem Node.kind_eq_of_bare {n m : Node} (h : n.bare = m.bare) : n.kind = m.kind :=
  eq_of_bare (fun _ => rfl) h

namespace Document

/-- A document in which every node is changed in its place. -/
def mapNodes (f : Node → Node) (d : Document) : Document :=
  { d with placements := d.placements.map fun p => { p with node := f p.node } }

/-- A document without the data that tools keep on nodes. -/
def bare (d : Document) : Document := d.mapNodes Node.bare

variable {f : Node → Node} {d : Document} {id : NodeId}

/-- Placements are found where they were. -/
theorem place?_mapNodes :
    (d.mapNodes f).place? id = (d.place? id).map fun p => { p with node := f p.node } := by
  show (d.placements.map _).find? _ = _
  rw [List.find?_map]
  rfl

/-- Nodes are found where they were. -/
theorem node?_mapNodes : (d.mapNodes f).node? id = (d.node? id).map f := by
  rw [node?, place?_mapNodes, node?, Option.map_map, Option.map_map]
  rfl

/-- Nodes stand in the order in which they stood. -/
theorem nodes_mapNodes : (d.mapNodes f).nodes = d.nodes.map f := by
  show (d.placements.map _).map _ = (d.placements.map _).map f
  rw [List.map_map, List.map_map]
  rfl

/-- Parents are where they were. -/
theorem parent?_mapNodes : (d.mapNodes f).parent? id = (d.parent? id).map f := by
  rw [parent?, place?_mapNodes, parent?]
  cases d.place? id with
  | none => rfl
  | some p =>
    cases h : p.parent with
    | none => simp [h]
    | some parent => simp [h, node?_mapNodes]

/-- Walks may take as many steps. -/
theorem walkBound_mapNodes : (d.mapNodes f).walkBound = d.walkBound := by
  show (d.placements.map _).length + 1 = _
  rw [List.length_map]
  rfl

/-- A change of one node is not seen where all nodes are changed alike. -/
theorem mapNodes_modifyNode {change : Node → Node} (keeps : ∀ n, f (change n) = f n) :
    (d.modifyNode id change).mapNodes f = d.mapNodes f := by
  unfold mapNodes modifyNode
  simp only [List.map_map]
  congr 1
  refine List.map_congr_left fun p _ => ?_
  simp only [Function.comp_apply]
  split
  · rw [keeps]
  · rfl

section Framed

variable (hf : Node.Frames f)
include hf

/-- Children are the changed children. -/
theorem children_mapNodes : (d.mapNodes f).children id = (d.children id).map f := by
  rw [children, node?_mapNodes, children]
  cases d.node? id with
  | none => rfl
  | some n =>
    simp only [Option.map_some, hf.children, List.map_filterMap]
    congr 1
    funext c
    exact node?_mapNodes

private theorem ancestorsFrom_mapNodes (fuel : Nat) (id : NodeId) :
    (d.mapNodes f).ancestorsFrom fuel id = (d.ancestorsFrom fuel id).map f := by
  induction fuel generalizing id with
  | zero => rfl
  | succ fuel ih =>
    rw [ancestorsFrom, parent?_mapNodes, ancestorsFrom]
    cases d.parent? id with
    | none => rfl
    | some p =>
      simp only [Option.map_some, List.map_cons]
      rw [hf.id, ih]

/-- Ancestors are the changed ancestors. -/
theorem ancestors_mapNodes : (d.mapNodes f).ancestors id = (d.ancestors id).map f := by
  rw [ancestors, walkBound_mapNodes, ancestorsFrom_mapNodes hf, ancestors]

/-- The nearest ancestor of a kind is the changed one. -/
theorem ancestorOfKind?_mapNodes (kind : NodeKind) :
    (d.mapNodes f).ancestorOfKind? id kind = (d.ancestorOfKind? id kind).map f := by
  rw [ancestorOfKind?, ancestors_mapNodes hf, List.find?_map, ancestorOfKind?]
  congr 2
  funext n
  exact congrArg (· == kind) (hf.kind n)

private theorem targetFrom_mapNodes (fuel : Nat) (id : NodeId) :
    (d.mapNodes f).targetFrom fuel id = d.targetFrom fuel id := by
  induction fuel generalizing id with
  | zero => rfl
  | succ fuel ih =>
    rw [targetFrom, node?_mapNodes, targetFrom]
    cases d.node? id with
    | none => rfl
    | some n =>
      simp only [Option.map_some, hf.kind, hf.mainComponent, hf.id, parent?_mapNodes]
      cases n.kind with
      | component =>
        cases d.parent? id with
        | none => rfl
        | some p => simp only [Option.map_some, hf.kind, hf.id]
      | componentInstance =>
        cases n.mainComponent with
        | none => rfl
        | some main => simp only [ih]
      | _ => rfl

/-- Targets stay the same. -/
theorem compileTarget?_mapNodes : (d.mapNodes f).compileTarget? id = d.compileTarget? id := by
  rw [compileTarget?, walkBound_mapNodes, targetFrom_mapNodes hf, compileTarget?]

/-- Owners stay the same. -/
theorem owningTarget?_mapNodes : (d.mapNodes f).owningTarget? id = d.owningTarget? id := by
  rw [owningTarget?, node?_mapNodes, owningTarget?]
  cases d.node? id with
  | none => rfl
  | some n =>
    have owner : (f n :: (d.ancestors n.id).map f).find? (fun m => ownsSubtree m.kind) =
        ((n :: d.ancestors n.id).find? fun m => ownsSubtree m.kind).map f := by
      rw [← List.map_cons, List.find?_map]
      congr 2
      funext m
      exact congrArg ownsSubtree (hf.kind m)
    simp only [Option.map_some, hf.id, ancestors_mapNodes hf]
    rw [owner]
    cases (n :: d.ancestors n.id).find? (fun m => ownsSubtree m.kind) with
    | none => rfl
    | some owner =>
      simp only [Option.map_some]
      rw [hf.id, compileTarget?_mapNodes hf]

/-- Targets keep their names. -/
theorem targetName?_mapNodes : (d.mapNodes f).targetName? id = d.targetName? id := by
  rw [targetName?, compileTarget?_mapNodes hf, targetName?]
  cases d.compileTarget? id with
  | none => rfl
  | some target =>
    simp only [node?_mapNodes, Option.map_map]
    cases d.node? target with
    | none => rfl
    | some n => simp only [Option.map_some, Function.comp, hf.name]

/-- Targets show what they showed. -/
theorem shownNode_mapNodes (n : Node) : (d.mapNodes f).shownNode (f n) = d.shownNode n := by
  have component : ((·.kind == .component) ∘ f : Node → Bool) = (·.kind == .component) :=
    funext fun m => congrArg (· == NodeKind.component) (hf.kind m)
  simp only [shownNode, hf.kind, hf.id, hf.name, children_mapNodes hf, List.find?_map, component]
  cases (d.children n.id).find? (·.kind == .component) with
  | none => rfl
  | some member => simp only [Option.map_some, hf.id]

/-- Selected members keep their values. -/
theorem selectedValues_mapNodes (values : ∀ n, (f n).variantProperties = n.variantProperties) (n : Node)
    (selected : Option NodeId) : (d.mapNodes f).selectedValues (f n) selected = d.selectedValues n selected := by
  unfold selectedValues
  cases selected with
  | none => rfl
  | some id =>
    rw [Option.bind_some, Option.bind_some, place?_mapNodes]
    cases d.place? id with
    | none => rfl
    | some p => simp only [Option.map_some, hf.id, values]

/-- Components are described as they were, but for the properties that a change affects. -/
theorem describe_mapNodes (values : ∀ n, (f n).variantProperties = n.variantProperties)
    (description : ∀ n, (f n).description = n.description)
    (links : ∀ n, (f n).documentationLinks = n.documentationLinks)
    {g : OrderedMap PropertyDefinition → OrderedMap PropertyDefinition}
    (properties : ∀ n values, overrideDefaults (f n).propertyDefinitions values =
      g (overrideDefaults n.propertyDefinitions values)) (selected : Option NodeId) :
    (d.mapNodes f).describe id selected =
      (d.describe id selected).map fun a => { a with properties := g a.properties } := by
  unfold describe
  rw [node?_mapNodes, compileTarget?_mapNodes hf]
  cases d.node? id with
  | none => rfl
  | some n =>
    cases d.compileTarget? id with
    | none => simp [hf.id, hf.name, Except.map]
    | some target =>
      simp only [Option.map_some, node?_mapNodes]
      cases d.node? target with
      | none => rfl
      | some t =>
        have named (kind : NodeKind) : ((d.mapNodes f).ancestorOfKind? t.id kind).map (·.name) =
            (d.ancestorOfKind? t.id kind).map (·.name) := by
          rw [ancestorOfKind?_mapNodes hf, Option.map_map]
          exact congrArg (Option.map · _) (funext hf.name)
        simp only [Option.map_some, shownNode_mapNodes hf, selectedValues_mapNodes hf values, hf.id, hf.name,
          hf.kind, description, links, properties, pageOf?, named]
        cases d.shownNode t <;> rfl

/-- The nodes of a kind stay the same. -/
theorem findAll_mapNodes (kind : NodeKind) : (d.mapNodes f).findAll kind = d.findAll kind := by
  have same : ((·.kind == kind) ∘ f : Node → Bool) = (·.kind == kind) := by
    funext n
    exact congrArg (· == kind) (hf.kind n)
  rw [findAll, nodes_mapNodes, List.filter_map, same, List.map_map, findAll]
  apply List.map_congr_left
  intro n _
  exact hf.id n

/-- Icons stay icons. -/
theorem isIcon_mapNodes : (d.mapNodes f).isIcon id = d.isIcon id := by
  rw [isIcon, node?_mapNodes, isIcon]
  cases d.node? id with
  | none => rfl
  | some n => simp only [Option.map_some, hf.name]

/-- Icons have the same sources. -/
theorem iconSources_mapNodes : (d.mapNodes f).iconSources = d.iconSources := by
  rw [iconSources, findAll_mapNodes hf, iconSources]
  congr 2
  funext id
  rw [node?_mapNodes]
  cases d.node? id with
  | none => rfl
  | some n => simp only [Option.map_some, Option.bind_some, hf.name]

/-- The same components are found. -/
theorem discover_mapNodes : (d.mapNodes f).discover = d.discover := by
  have targets : (d.mapNodes f).compileTarget? = d.compileTarget? :=
    funext fun _ => compileTarget?_mapNodes hf
  have icons : (d.mapNodes f).isIcon = d.isIcon := funext fun _ => isIcon_mapNodes hf
  rw [discover, findAll_mapNodes hf, targets, icons, discover]

/-- The same child is selected. -/
theorem selectedChild?_mapNodes : (d.mapNodes f).selectedChild? id = d.selectedChild? id := by
  show d.selection.reverse.find? _ = d.selection.reverse.find? _
  congr 1
  funext selected
  rw [parent?_mapNodes]
  cases d.parent? selected with
  | none => rfl
  | some p => exact congrArg (· == id) (hf.id p)

end Framed
end Document
end Handoff
