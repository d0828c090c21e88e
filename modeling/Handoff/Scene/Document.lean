import Handoff.Error
import Handoff.Scene.Node
import Handoff.Scene.Variable

/-!
# Design documents

A document keeps its nodes in order, each in a placement: the node, the id under which it is found, and
the link to its parent. Child lists are what a document stores; the ids and links are derived from them
when a snapshot is read, and edits keep them up. Walks along links and lists are bounded by the number
of placements, which no walk of a document without cycles exceeds.
-/

namespace Handoff

/-- A node with the id under which it is found and the link to its parent. -/
structure Placement where
  node : Node
  key : Option NodeId
  parent : Option NodeId
  deriving DecidableEq

/-- A design document. -/
structure Document where
  name : String
  placements : List Placement := []
  collections : List VariableCollection := []
  localVariables : List Variable := []
  paintStyles : List PaintStyle := []
  selection : List NodeId := []
  deriving DecidableEq

namespace Document

instance : Inhabited Document := ⟨{ name := "" }⟩

/-- The nodes in document order. -/
def nodes (d : Document) : List Node := d.placements.map (·.node)

/-- The placement found under an id. -/
def place? (d : Document) (id : NodeId) : Option Placement :=
  d.placements.find? (fun p => p.key == some id)

/-- The node found under an id. -/
def node? (d : Document) (id : NodeId) : Option Node := (d.place? id).map (·.node)

/-- Whether a node is found under an id. -/
def contains (d : Document) (id : NodeId) : Bool := (d.place? id).isSome

/-- The parent of the node found under an id. -/
def parent? (d : Document) (id : NodeId) : Option Node :=
  ((d.place? id).bind (·.parent)).bind d.node?

/-- The children of the node found under an id, as far as they exist. -/
def children (d : Document) (id : NodeId) : List Node :=
  match d.node? id with
  | some n => n.children.filterMap d.node?
  | none => []

/-- How many steps a walk may take. -/
def walkBound (d : Document) : Nat := d.placements.length + 1

/-- The strict ancestors of a node, the nearest first; `fuel` bounds how many. -/
def ancestorsFrom (d : Document) : Nat → NodeId → List Node
  | 0, _ => []
  | fuel + 1, id =>
    match d.parent? id with
    | some p => p :: ancestorsFrom d fuel p.id
    | none => []

/-- The strict ancestors of a node, the nearest first. -/
def ancestors (d : Document) (id : NodeId) : List Node := d.ancestorsFrom d.walkBound id

/-- The nearest strict ancestor of a kind. -/
def ancestorOfKind? (d : Document) (id : NodeId) (kind : NodeKind) : Option Node :=
  (d.ancestors id).find? (·.kind == kind)

/-- The page that holds a node. -/
def pageOf? (d : Document) (id : NodeId) : Option Node := d.ancestorOfKind? id .page

/-- The ids of the nodes of a kind in document order. -/
def findAll (d : Document) (kind : NodeKind) : List NodeId :=
  (d.nodes.filter (·.kind == kind)).map (·.id)

/-- The pages in document order. -/
def pages (d : Document) : List Node := d.nodes.filter (·.kind == .page)

/-- The variable with an id. -/
def variableById? (d : Document) (id : NodeId) : Option Variable :=
  d.localVariables.find? (·.id == id)

/-- The first collection with a name. -/
def collectionNamed? (d : Document) (name : String) : Option VariableCollection :=
  d.collections.find? (·.name == name)

/-- The exported bytes of a node: an error if the node is missing or its export is damaged, nothing if
it has none. -/
def exportAsset (d : Document) (id : NodeId) : Except CompileError (Option (AssetFormat × Bytes)) :=
  match d.node? id with
  | none => .error (.nodeNotFound id)
  | some n =>
    match n.exported with
    | none => .ok none
    | some e =>
      match e.bytes? with
      | some bytes => .ok (some (e.format, bytes))
      | none => .error (.pngNotBase64 id)

/-- The value that a tool keeps on a node. -/
def pluginValue? (d : Document) (id : NodeId) (namespaceName key : String) : Option String :=
  (d.node? id).bind (·.pluginValue? namespaceName key)

/-- A node under an id is the node of the placement there. -/
theorem node?_eq_some_iff {d : Document} {id : NodeId} {n : Node} :
    d.node? id = some n ↔ ∃ p, d.place? id = some p ∧ p.node = n := by
  simp [node?]

/-- A placement found under an id carries that id as its key. -/
theorem key_of_place? {d : Document} {id : NodeId} {p : Placement} (h : d.place? id = some p) :
    p.key = some id := by
  have := List.find?_some h
  simpa using this

/-- A placement found under an id belongs to the document. -/
theorem mem_of_place? {d : Document} {id : NodeId} {p : Placement} (h : d.place? id = some p) :
    p ∈ d.placements :=
  List.mem_of_find?_eq_some h

/-- A node found under an id belongs to the document. -/
theorem mem_nodes_of_node? {d : Document} {id : NodeId} {n : Node} (h : d.node? id = some n) :
    n ∈ d.nodes := by
  obtain ⟨p, hp, rfl⟩ := node?_eq_some_iff.1 h
  exact List.mem_map_of_mem (mem_of_place? hp)

/-- A child is found under an id that a node lists. -/
theorem exists_of_mem_children {d : Document} {id : NodeId} {m : Node} (h : m ∈ d.children id) :
    ∃ n, d.node? id = some n ∧ ∃ c ∈ n.children, d.node? c = some m := by
  unfold children at h
  split at h
  · next n hn => exact ⟨n, hn, List.mem_filterMap.1 h⟩
  · cases h

/-- A child belongs to the document. -/
theorem mem_nodes_of_mem_children {d : Document} {id : NodeId} {m : Node} (h : m ∈ d.children id) :
    m ∈ d.nodes := by
  obtain ⟨_, -, _, -, found⟩ := exists_of_mem_children h
  exact mem_nodes_of_node? found

end Document
end Handoff
