import Handoff.Scene.Document

/-!
# Compile targets

What is compiled for a node is its target: a variant set for the set and its members, a component for
itself, and for an instance the target of its main component. Any other node has no target of its own,
but it may lie inside a component, which then owns it.
-/

namespace Handoff

namespace Document

/-- The target of a node; `fuel` bounds the chain of instances that is followed. -/
def targetFrom (d : Document) : Nat → NodeId → Option NodeId
  | 0, _ => none
  | fuel + 1, id =>
    match d.node? id with
    | none => none
    | some n =>
      match n.kind with
      | .componentSet => some n.id
      | .component =>
        match d.parent? id with
        | some p => if p.kind = .componentSet then some p.id else some n.id
        | none => some n.id
      | .componentInstance =>
        match n.mainComponent with
        | none => none
        | some main => if main = id then none else targetFrom d fuel main
      | _ => none

/-- The target of a node. -/
def compileTarget? (d : Document) (id : NodeId) : Option NodeId := d.targetFrom d.walkBound id

/-- Whether nodes of a kind own what lies inside them. -/
def ownsSubtree (kind : NodeKind) : Bool := kind == .component || kind == .componentSet

/-- The target of the nearest component or set that is or holds a node. -/
def owningTarget? (d : Document) (id : NodeId) : Option NodeId :=
  match d.node? id with
  | none => none
  | some n =>
    match (n :: d.ancestors n.id).find? (fun m => ownsSubtree m.kind) with
    | some owner => d.compileTarget? owner.id
    | none => none

/-- A missing node has no target. -/
theorem compileTarget?_of_not_found {d : Document} {id : NodeId} (h : d.node? id = none) :
    d.compileTarget? id = none := by
  simp [compileTarget?, walkBound, targetFrom, h]

end Document
end Handoff
