import Handoff.Component.Primitive
import Handoff.Ordered.Set
import Handoff.Scene.Asset
import Handoff.Style.Sheet

/-!
# Component models

A model is all that is written about a component: the tree of its rendered nodes, the base styles by
slug and for each slug the patches of the variants, the captured assets and links, and what the markup
uses.
-/

namespace Handoff

/-- The slug of the root node. -/
def rootSlug : String := "root"

/-- The value of an attribute on an instance. -/
inductive AttributeValue where
  | bool (b : Bool)
  | text (s : String)
  /-- A property of the component that holds the instance. -/
  | prop (name : String)
  /-- An element of another component. -/
  | element (name : String)
  deriving DecidableEq, Repr, Inhabited

/-- What an instance renders: a component with attributes, or an icon. -/
structure InstanceUse where
  component : String
  attributes : List (String × AttributeValue)
  icon : Option String
  width : Binary64
  height : Binary64
  deriving DecidableEq

/-- What is written about one node. -/
structure ModelNode where
  id : NodeId
  name : String
  kind : NodeKind
  tag : Primitive
  slug : String
  visibilityProp : Option String := none
  swapProp : Option String := none
  textProp : Option String := none
  characters : Option String := none
  use : Option InstanceUse := none
  deriving DecidableEq

/-- A rendered node with the entries below it, if there are any. -/
inductive Entry where
  | mk (node : ModelNode) (children : Option (List Entry)) (isAsset : Bool)

namespace Entry

/-- The node of an entry. -/
def node : Entry → ModelNode
  | mk node _ _ => node

/-- The entries below an entry. -/
def children : Entry → Option (List Entry)
  | mk _ children _ => children

/-- Whether an entry stands for an asset. -/
def isAsset : Entry → Bool
  | mk _ _ isAsset => isAsset

/-- An entry without entries below it. -/
def leaf (node : ModelNode) : Entry := mk node none false

end Entry

/-- A captured asset. -/
structure Asset where
  id : NodeId
  name : String
  hash : String
  format : AssetFormat
  width : Binary64
  height : Binary64
  data : String
  deriving DecidableEq

/-- The style patches of variants by member key. -/
abbrev Modifiers := OrderedMap StyleMap

/-- The model of a component. -/
structure Model where
  root : ModelNode
  tree : List Entry
  styles : OrderedMap StyleMap
  variants : OrderedMap Modifiers
  assets : OrderedMap Asset
  links : OrderedMap String
  primitives : OrderedSet Primitive
  components : OrderedMap String
  icons : OrderedSet String

namespace Model

/-- Whether some variant changes the style of a slug. -/
def hasVariantStyles (m : Model) (slug : String) : Bool :=
  match m.variants.get? slug with
  | some modifiers => modifiers.values.any (!·.isEmpty)
  | none => false

end Model
end Handoff
