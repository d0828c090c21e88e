import Handoff.Ordered.Map
import Handoff.Ordered.Sorted
import Handoff.Scene.Arrangement
import Handoff.Scene.Asset
import Handoff.Scene.Paint
import Handoff.Scene.PropertyJson
import Handoff.Scene.TextStyle
import Handoff.Variant.Key

/-!
# Nodes

A node is what a design document stores under one id: its place in the tree as a list of children, its
looks, and its part in components as definition, member or instance. The link to its parent is not a
field of a node; the document derives it.
-/

namespace Handoff

/-- What happens on a trigger. -/
structure Reaction where
  trigger : String
  url : Option String := none
  deriving DecidableEq, Repr, Inhabited

/-- Data that tools attach to a node, by namespace and key. -/
abbrev PluginData := SortedMap (SortedMap String)

/-- A node of a design document. -/
structure Node where
  id : NodeId
  name : String
  kind : NodeKind
  children : List NodeId := []
  visible : Bool := true
  width : Binary64 := .zero
  height : Binary64 := .zero
  description : String := ""
  documentationLinks : List String := []
  layout : Option AutoLayout := none
  sizing : Sizing := {}
  fills : List Paint := []
  strokes : List Paint := []
  strokeWeight : Binary64 := .zero
  cornerRadius : Binary64 := .zero
  opacity : Binary64 := .one
  text : Option TextStyle := none
  propertyDefinitions : OrderedMap PropertyDefinition := .empty
  propertyReferences : PropertyReferences := {}
  componentProperties : OrderedMap InstanceProperty := .empty
  variantProperties : OrderedMap String := .empty
  mainComponent : Option NodeId := none
  reactions : List Reaction := []
  exported : Option ExportedAsset := none
  pluginData : PluginData := .empty
  deriving DecidableEq

namespace Node

instance : Inhabited Node := ⟨{ id := "", name := "", kind := .unknown }⟩

/-- Whether a node is a member of a variant set. -/
def isVariantMember (n : Node) : Bool := !n.variantProperties.isEmpty

/-- The key of a member: its assignments, or its name if it has none. -/
def variantKey (n : Node) : String :=
  if n.variantProperties.isEmpty then n.name
  else VariantKey.ofAssignments n.variantProperties.entries

/-- Whether a node renders: it is visible, or its visibility is bound to a property. -/
def isRendered (n : Node) : Bool := n.visible || n.propertyReferences.visible.isSome

/-- The value that a tool keeps on a node. -/
def pluginValue? (n : Node) (namespaceName key : String) : Option String :=
  (n.pluginData.get? namespaceName).bind (·.get? key)

/-- A node with a value that a tool keeps on it. -/
def setPluginValue (n : Node) (namespaceName key value : String) : Node :=
  let group := ((n.pluginData.get? namespaceName).getD .empty).insert key value
  { n with pluginData := n.pluginData.insert namespaceName group }

end Node
end Handoff
