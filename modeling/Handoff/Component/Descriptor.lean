import Handoff.Component.Target
import Handoff.Text.Identifier

/-!
# Descriptors

A descriptor says what is compiled for a node and how it is called: the target, the node whose subtree
is shown, the path of page, section and name, and the declared properties. A selected member of the
target gives the defaults of its variant properties.
-/

namespace Handoff

/-- The description of one compiled component. -/
structure Descriptor where
  id : NodeId
  name : String
  page : String
  pageSection : Option String
  path : String
  isVariant : Bool
  isInstance : Bool
  rootNode : NodeId
  properties : OrderedMap PropertyDefinition
  description : String
  documentationLinks : List String
  deriving DecidableEq

/-- The path segment of components without a page. -/
def defaultPageSegment : String := "common"

/-- The path segment of components without a section. -/
def defaultSectionSegment : String := "base"

/-- The path segment of a name, or a fallback if the name has no words. -/
def pathSegment (name fallback : String) : String :=
  let segment := Text.camelIdentifier (Text.lowercaseString name)
  if segment.isEmpty then fallback else segment

/-- Let the values of a selected member be the defaults of variant properties. -/
def overrideDefaults (definitions : OrderedMap PropertyDefinition)
    (values : List (String × String)) : OrderedMap PropertyDefinition :=
  values.foldl
    (fun m pair =>
      m.modify pair.1 fun p => if p.kind = .variant then { p with default := .text pair.2 } else p)
    definitions

namespace Document

/-- The node whose subtree a target shows: its first member for a set, else the target itself. -/
def shownNode (d : Document) (target : Node) : Except CompileError NodeId :=
  if target.kind = .componentSet then
    match (d.children target.id).find? (·.kind == .component) with
    | some member => .ok member.id
    | none => .error (.emptyVariantSet target.name)
  else .ok target.id

/-- The values of the selected member, if it is a member of the target. -/
def selectedValues (d : Document) (target : Node) (selected : Option NodeId) :
    List (String × String) :=
  match selected.bind d.place? with
  | some p => if p.parent = some target.id then p.node.variantProperties.entries else []
  | none => []

/-- Describe the component compiled for a node. -/
def describe (d : Document) (id : NodeId) (selected : Option NodeId) :
    Except CompileError Descriptor :=
  match d.node? id with
  | none => .error (.nodeNotFound id)
  | some n =>
    match d.compileTarget? id with
    | none => .error (.notAComponent n.id n.name)
    | some targetId =>
      match d.node? targetId with
      | none => .error (.nodeNotFound targetId)
      | some target =>
        match d.shownNode target with
        | .error e => .error e
        | .ok rootNode =>
          let page := ((d.pageOf? target.id).map (·.name)).getD ""
          let pageSection := (d.ancestorOfKind? target.id .section).map (·.name)
          .ok
            { id := target.id
              name := Text.pascalIdentifier target.name
              page, pageSection
              path := "components/" ++ pathSegment page defaultPageSegment ++ "/"
                ++ pathSegment (pageSection.getD "") defaultSectionSegment ++ "/"
                ++ Text.camelIdentifier target.name
              isVariant := target.kind == .componentSet
              isInstance := n.kind == .componentInstance
              rootNode
              properties := overrideDefaults target.propertyDefinitions
                (d.selectedValues target selected)
              description := target.description
              documentationLinks := target.documentationLinks }

/-- A description is that of the node that is found as the target: of what it shows, and of its properties with
the values of the selected member. -/
theorem shown_of_describe {d : Document} {id : NodeId} {selected : Option NodeId}
    {descriptor : Descriptor} (h : d.describe id selected = .ok descriptor) :
    ∃ target t, d.compileTarget? id = some target ∧ d.node? target = some t ∧
      d.shownNode t = .ok descriptor.rootNode ∧ descriptor.id = t.id ∧
      descriptor.name = Text.pascalIdentifier t.name ∧
      descriptor.isVariant = (t.kind == .componentSet) ∧
      descriptor.properties = overrideDefaults t.propertyDefinitions (d.selectedValues t selected) := by
  unfold describe at h
  split at h
  · cases h
  · split at h
    · cases h
    · next target htarget =>
      split at h
      · cases h
      · next t ht =>
        split at h
        · cases h
        · next root shown =>
          cases h
          exact ⟨target, t, htarget, ht, shown, rfl, rfl, rfl, rfl⟩

/-- A description carries the id and the name of the node that is found as the target. -/
theorem target_of_describe {d : Document} {id : NodeId} {selected : Option NodeId}
    {descriptor : Descriptor} (h : d.describe id selected = .ok descriptor) :
    ∃ target t, d.compileTarget? id = some target ∧ d.node? target = some t ∧
      descriptor.id = t.id ∧ descriptor.name = Text.pascalIdentifier t.name := by
  obtain ⟨target, t, htarget, ht, -, carried, name, -⟩ := shown_of_describe h
  exact ⟨target, t, htarget, ht, carried, name⟩

end Document
end Handoff
