import Handoff.Scene.Linking

/-!
# Editing documents

Edits name nodes by the ids under which they are found. An added node becomes the last child of its
parent; a removed node takes its subtree with it, out of child lists and selection as well. An edit
that fails before it changes anything leaves the document as it was; removal can also fail while it
derives the links anew, and then what it has done stays done.
-/

namespace Handoff

namespace Document

/-- Change the node found under an id. -/
def modifyNode (d : Document) (id : NodeId) (f : Node → Node) : Document :=
  { d with
    placements := d.placements.map fun p => if p.key = some id then { p with node := f p.node } else p }

/-- Overwrite the node found under an id. Its key and its parent link stay as they are. -/
def replaceNode (d : Document) (id : NodeId) (node : Node) : Document :=
  d.modifyNode id (fun _ => node)

/-- Add a node at the end of the document, and under a parent if one is given. -/
def addNode (d : Document) (node : Node) (parent : Option NodeId) : Except CompileError Document :=
  if d.contains node.id then .error (.duplicateNode node.id)
  else
    match parent with
    | none =>
      .ok { d with placements := d.placements ++ [⟨node, some node.id, none⟩] }
    | some parentId =>
      if d.contains parentId then
        let adopted := d.modifyNode parentId fun p => { p with children := p.children ++ [node.id] }
        .ok { adopted with placements := adopted.placements ++ [⟨node, some node.id, some parentId⟩] }
      else .error (.nodeNotFound parentId)

/-- A node is refused if its id is taken, or if there is no node with the id of the parent. -/
theorem addNode_eq_error_iff {d : Document} {node : Node} {parent : Option NodeId} {err : CompileError} :
    d.addNode node parent = .error err ↔
      d.contains node.id = true ∧ err = .duplicateNode node.id ∨
      d.contains node.id = false ∧ ∃ p, parent = some p ∧ d.contains p = false ∧ err = .nodeNotFound p := by
  unfold addNode
  cases d.contains node.id with
  | true => simp [@eq_comm _ err]
  | false =>
    cases parent with
    | none => simp
    | some p => cases found : d.contains p <;> simp [found, @eq_comm _ err]

/-- The ids of a subtree, found from its root downwards with the last child first; `fuel` bounds the
depth. -/
def subtreeFrom (d : Document) : Nat → NodeId → Except CompileError (List NodeId)
  | 0, _ => .ok []
  | fuel + 1, id =>
    match d.node? id with
    | none => .error (.nodeNotFound id)
    | some n => do
      let below ← n.children.reverse.mapM (subtreeFrom d fuel)
      return id :: below.flatten

/-- The ids of a node and everything below it. -/
def subtree (d : Document) (id : NodeId) : Except CompileError (List NodeId) :=
  d.subtreeFrom d.walkBound id

/-- Take ids out of the document, the child lists and the selection. -/
def without (d : Document) (ids : List NodeId) : Document :=
  { d with
    placements := (d.placements.filter (fun p => !ids.contains p.node.id)).map fun p =>
      { p with node := { p.node with children := p.node.children.filter (!ids.contains ·) } }
    selection := d.selection.filter (!ids.contains ·) }

/-- Remove a node and everything below it. -/
def removeNode (d : Document) (id : NodeId) : Document × Except CompileError Unit :=
  match d.subtree id with
  | .error e => (d, .error e)
  | .ok ids => (d.without ids).relink

/-- Keep a value on a node. -/
def setPluginValue (d : Document) (id : NodeId) (namespaceName key value : String) :
    Except CompileError Document :=
  if d.contains id then .ok (d.modifyNode id (·.setPluginValue namespaceName key value))
  else .error (.nodeNotFound id)

/-- Give every node without plugin data the plugin data that it has in a previous snapshot. -/
def adoptPluginData (d previous : Document) : Document :=
  { d with
    placements := d.placements.map fun p =>
      if p.node.pluginData.isEmpty then
        match previous.node? p.node.id with
        | some old => { p with node := { p.node with pluginData := old.pluginData } }
        | none => p
      else p }

end Document
end Handoff
