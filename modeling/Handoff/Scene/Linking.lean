import Handoff.Scene.Document

/-!
# Deriving ids and parent links

Linking gives every node its own id as key and every child the parent that lists it; where several
nodes list a child, the last one counts. A document links if no two nodes share an id and every listed
child exists. When linking meets a repeated id it stops there: earlier nodes keep their keys, except
that the repeated id now finds the later node, and the nodes after it are not found. When it meets a
missing child, all keys are set but no link has changed.
-/

namespace Handoff

namespace Document

/-- The position of the first id that occurred before, among ids that follow those `seen`. -/
def firstRepeat? (seen : List NodeId) : List NodeId → Option Nat
  | [] => none
  | id :: rest =>
    if seen.contains id then some 0 else (firstRepeat? (id :: seen) rest).map (· + 1)

/-- Key placements up to the position `stop` by their own ids, where the id at `stop` wins over the
same id before it, and leave the others without a key. -/
def keyedUpTo (stop : Nat) (repeated : NodeId) (placements : List Placement) : List Placement :=
  placements.zipIdx.map fun (p, i) =>
    if i = stop then { p with key := some p.node.id }
    else if i < stop ∧ p.node.id ≠ repeated then { p with key := some p.node.id }
    else { p with key := none }

/-- Key every placement by its own id. -/
def keyed (placements : List Placement) : List Placement :=
  placements.map fun p => { p with key := some p.node.id }

/-- The first child reference to a node that does not exist, as node and child. -/
def missingChild? (ids : List NodeId) : List Node → Option (NodeId × NodeId)
  | [] => none
  | n :: rest =>
    match n.children.find? (fun c => !ids.contains c) with
    | some c => some (n.id, c)
    | none => missingChild? ids rest

/-- The last node that lists a child. -/
def lastParent? (nodes : List Node) (child : NodeId) : Option NodeId :=
  (nodes.reverse.find? (fun n => n.children.contains child)).map (·.id)

/-- Link a document, and say what is wrong with it if it does not link. -/
def relink (d : Document) : Document × Except CompileError Unit :=
  let nodes := d.nodes
  let ids := nodes.map (·.id)
  match firstRepeat? [] ids with
  | some i =>
    let repeated := ids.getD i ""
    ({ d with placements := keyedUpTo i repeated d.placements }, .error (.duplicateNode repeated))
  | none =>
    let placements := keyed d.placements
    match missingChild? ids nodes with
    | some (node, child) => ({ d with placements }, .error (.missingChild node child))
    | none =>
      let linked := placements.map fun p => { p with parent := lastParent? nodes p.node.id }
      ({ d with placements := linked }, .ok ())

/-- The document of a list of nodes, if it links. -/
def ofNodes? (d : Document) (nodes : List Node) : Except CompileError Document :=
  let raw := { d with placements := nodes.map fun node => ⟨node, some node.id, none⟩ }
  match raw.relink with
  | (linked, .ok ()) => .ok linked
  | (_, .error e) => .error e

end Document
end Handoff
