import Handoff.Scene.DocumentJson

/-!
# Changes between snapshots

A change record says what happened to one node. Comparing two snapshots yields a record for every node
that was created, every node whose written form has changed, with the fields that differ in ascending
order, and every node that was deleted. Order inside objects and the sign of zero are not differences.
-/

namespace Handoff

/-- The kind of a change. -/
inductive ChangeKind where
  | create
  | delete
  | propertyChange
  | styleCreate
  | styleDelete
  | stylePropertyChange
  deriving DecidableEq, Repr, Inhabited

namespace ChangeKind

/-- The token of a kind. -/
def token : ChangeKind → String
  | .create => "CREATE"
  | .delete => "DELETE"
  | .propertyChange => "PROPERTY_CHANGE"
  | .styleCreate => "STYLE_CREATE"
  | .styleDelete => "STYLE_DELETE"
  | .stylePropertyChange => "STYLE_PROPERTY_CHANGE"

/-- The kind of a token. -/
def ofToken? (token : String) : Option ChangeKind :=
  [create, delete, propertyChange, styleCreate, styleDelete, stylePropertyChange].find?
    (·.token == token)

end ChangeKind

/-- A change record. -/
structure Change where
  kind : ChangeKind
  node : NodeId
  properties : List String := []
  removed : Bool := false
  deriving DecidableEq, Repr, Inhabited

namespace Change

/-- Read a change record. -/
def ofJson? (j : Json) : Option Change := do
  let f ← j.fields? ["type", "node", "properties", "removed"]
  let kind ← f.required "type" (fun j => j.token?.bind ChangeKind.ofToken?)
  let node ← f.required "node" Json.string?
  let properties ← f.withDefault "properties" [] (Json.list? Json.string?)
  let removed ← f.withDefault "removed" false Json.bool?
  return { kind, node, properties, removed }

/-- Write a change record. -/
def toJson (c : Change) : Json :=
  .object [("type", .string c.kind.token), ("node", .string c.node),
    ("properties", .ofStrings c.properties), ("removed", .bool c.removed)]

end Change

/-- Whether a field is written the same in two objects, or in neither. -/
def sameField (old new : List (String × Json)) (field : String) : Bool :=
  match old.lookup field, new.lookup field with
  | some a, some b => a.same b
  | none, none => true
  | _, _ => false

/-- The fields in which the written forms of two nodes differ, in ascending order. -/
def changedFields (old new : Node) : List String :=
  let before := old.members
  let after := new.members
  let names := (before.map Prod.fst ++ after.map Prod.fst).eraseDups
  (names.mergeSort (fun a b => a ≤ b)).filter (fun name => !sameField before after name)

namespace Document

/-- The record for a node of the new snapshot, if anything about it has changed. -/
def changeOf? (old : Document) (node : Node) : Option Change :=
  match old.node? node.id with
  | none => some { kind := .create, node := node.id }
  | some previous =>
    match changedFields previous node with
    | [] => none
    | properties => some { kind := .propertyChange, node := node.id, properties }

/-- The record for a node of the old snapshot that the new one lacks. -/
def deletionOf? (new : Document) (node : Node) : Option Change :=
  if new.contains node.id then none
  else some { kind := .delete, node := node.id, removed := true }

/-- The changes from one snapshot to another. -/
def diff (old new : Document) : List Change :=
  new.nodes.filterMap old.changeOf? ++ old.nodes.filterMap new.deletionOf?

end Document
end Handoff
