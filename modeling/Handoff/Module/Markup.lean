import Handoff.Component.Model

/-!
# Markup

The markup of a component is a tree of elements. What an element refers to is part of the tree: the
style or class list of a slug, the properties of the component, captured assets, icons and other
components. A model determines the tree; its text is written elsewhere.
-/

namespace Handoff

/-- A reference to the looks of a slug. -/
inductive StyleRef where
  /-- The style of the slug. -/
  | style (slug : String)
  /-- The class list of the slug: its style and the styles of the variants that apply. -/
  | classes (slug : String)
  deriving DecidableEq, Repr, Inhabited

/-- What a text element shows. -/
inductive TextContent where
  | prop (name : String)
  | literal (characters : String) (translated : Bool)
  deriving DecidableEq, Repr, Inhabited

/-- An element of markup. A child of a container may be bound to a property that shows or hides it. -/
inductive Markup where
  /-- The element that a property of the component holds. -/
  | slot (prop : String)
  /-- A captured asset. -/
  | image (width height : Binary64) (data : String)
  /-- The place of an asset that was not captured. -/
  | missing (name : String)
  | icon (name : String) (size : Binary64)
  /-- An instance of another component. -/
  | use (component : String) (attributes : List (String × AttributeValue))
  | text (tag : Primitive) (looks : Option StyleRef) (content : TextContent)
  | empty (tag : Primitive) (looks : Option StyleRef)
  | container (tag : Primitive) (looks : Option StyleRef) (children : List (Option String × Markup))

namespace Model

/-- The reference to the looks of a slug. -/
def looksOf (m : Model) (slug : String) : StyleRef :=
  if m.hasVariantStyles slug then .classes slug else .style slug

/-- The reference to the looks of a node, if it has a slug. -/
def looksOfNode (m : Model) (n : ModelNode) : Option StyleRef :=
  if n.slug.isEmpty then none else some (m.looksOf n.slug)

/-- The element of an asset node. -/
def assetMarkup (m : Model) (n : ModelNode) : Markup :=
  match m.assets.get? n.id with
  | some a => .image a.width a.height a.data
  | none => .missing n.name

end Model

/-- The element of an instance. -/
def InstanceUse.markup (u : InstanceUse) : Markup :=
  match u.icon with
  | some name => .icon name (u.width.max u.height)
  | none => .use u.component u.attributes

/-- The content of a text node. -/
def ModelNode.content (n : ModelNode) (translated : Bool) : TextContent :=
  match n.textProp with
  | some prop => .prop prop
  | none => .literal (n.characters.getD "") translated

namespace Model

/-- The element of a node that holds no entries: a slot, an asset, an instance or a text. -/
def leafMarkup? (m : Model) (translated : Bool) (n : ModelNode) (isAsset : Bool) : Option Markup :=
  match n.swapProp with
  | some prop => some (.slot prop)
  | none =>
    if isAsset then some (m.assetMarkup n)
    else
      match n.use with
      | some u => some u.markup
      | none =>
        if n.kind = .text then some (.text n.tag (m.looksOfNode n) (n.content translated)) else none

mutual

/-- The element of an entry. -/
def markup (m : Model) (translated : Bool) : Entry → Markup
  | .mk n none isAsset => (m.leafMarkup? translated n isAsset).getD (.empty n.tag (m.looksOfNode n))
  | .mk n (some entries) isAsset =>
    (m.leafMarkup? translated n isAsset).getD
      (.container n.tag (m.looksOfNode n) (markupAll m translated entries))

/-- The elements of entries, each with the property that shows or hides it. -/
def markupAll (m : Model) (translated : Bool) : List Entry → List (Option String × Markup)
  | [] => []
  | e :: rest => (e.node.visibilityProp, markup m translated e) :: markupAll m translated rest

end

/-- The elements of entries stand in the order of the entries. -/
theorem markupAll_eq_map (m : Model) (translated : Bool) (entries : List Entry) :
    m.markupAll translated entries =
      entries.map fun e => (e.node.visibilityProp, m.markup translated e) := by
  induction entries with
  | nil => simp [markupAll]
  | cons e rest ih => simp [markupAll, ih]

end Model
end Handoff
