import Handoff.Component.Descriptor
import Handoff.Component.Model
import Handoff.Log
import Handoff.Scene.PropertyOrder
import Handoff.Style.Resolve
import Handoff.Text.IconName

/-!
# Extracting models

One walk over the rendered subtree of a component builds its model. Nodes that are swapped by a
property, assets and instances are taken whole; texts have characters; every other node contains what
renders below it. The first node of a slug gives the slug its style. The styles of variant members are
collected by a walk with the same rules and kept as patches of the base styles.
-/

namespace Handoff

/-- What a walk has captured so far. -/
structure Capture where
  styles : OrderedMap StyleMap := .empty
  assets : OrderedMap Asset := .empty
  links : OrderedMap String := .empty
  primitives : OrderedSet Primitive := .empty
  components : OrderedMap String := .empty
  icons : OrderedSet String := .empty
  log : List LogRecord := []

namespace Capture

/-- Capture a primitive tag. -/
def addPrimitive (s : Capture) (p : Primitive) : Capture :=
  { s with primitives := s.primitives.insert p }

/-- Capture the links that a node follows on a click, under the node's name. -/
def addLinks (s : Capture) (n : Node) : Capture :=
  let urls := (n.reactions.filter (·.trigger == "ON_CLICK")).filterMap (·.url)
  { s with links := s.links.insertAll (urls.map (n.name, ·)) }

/-- Give a slug a style unless it is empty or has one. -/
def addStyle (s : Capture) (slug : String) (style : StyleMap) : Capture :=
  if slug.isEmpty then s else { s with styles := s.styles.insertIfNew slug style }

/-- Capture the exported bytes of an asset node. A node without an export leaves no asset, and one
whose export fails leaves a warning. -/
def addAsset (d : Document) (s : Capture) (n : Node) : Capture :=
  match d.exportAsset n.id with
  | .ok (some (format, bytes)) =>
    let asset : Asset :=
      { id := n.id, name := n.name, hash := Digest.contentHash bytes, format, width := n.width,
        height := n.height, data := format.dataUri bytes }
    { s.addPrimitive .image with assets := s.assets.insert n.id asset }
  | .ok none => s
  | .error e =>
    { s with
      log := s.log ++ [⟨.warning, "Could not export asset '" ++ n.name ++ "' (" ++ n.id ++ "): "
        ++ e.message⟩] }

end Capture

namespace Document

/-- The target of a node with the name of its component. -/
def targetName? (d : Document) (id : NodeId) : Option (NodeId × String) :=
  match d.compileTarget? id with
  | none => none
  | some target => (d.node? target).map fun n => (target, Text.pascalIdentifier n.name)

/-- The attribute that an instance property becomes. A swap that leads nowhere is left out. -/
def attributeOf (d : Document) (s : Capture) (e : String × InstanceProperty) :
    Capture × Option (String × AttributeValue) :=
  let name := Text.propertyIdentifier e.1
  match e.2.boundTo with
  | some bound => (s, some (name, .prop (Text.propertyIdentifier bound)))
  | none =>
    match e.2.kind with
    | .boolean => (s, some (name, .bool e.2.value.truth))
    | .instanceSwap =>
      match e.2.value.text?.bind d.targetName? with
      | some (target, component) =>
        ({ s with components := s.components.insert target component },
          some (name, .element component))
      | none => (s, none)
    | _ => (s, some (name, .text e.2.value.wording))

/-- The attributes of a list of instance properties. -/
def attributes (d : Document) (s : Capture) :
    List (String × InstanceProperty) → Capture × List (String × AttributeValue)
  | [] => (s, [])
  | e :: rest =>
    let (s, first) := d.attributeOf s e
    let (s, others) := attributes d s rest
    (s, first.toList ++ others)

/-- The component that an instance of a main component renders, and its icon. -/
def mainUse (d : Document) (s : Capture) (n main : Node) (mainId : NodeId) :
    Capture × Except CompileError (String × Option String) :=
  if Text.isIconName main.name then
    ({ s with icons := s.icons.insert main.name },
      .ok (Text.pascalIdentifier main.name, some main.name))
  else
    match d.targetName? mainId with
    | some (target, component) =>
      ({ s with components := s.components.insert target component }, .ok (component, none))
    | none => (s, .error (.noCompileTarget n.name mainId))

/-- What an instance renders. -/
def instanceUse (d : Document) (s : Capture) (n : Node) :
    Capture × Except CompileError InstanceUse :=
  match n.mainComponent with
  | none => (s, .error (.noMainComponent n.name))
  | some mainId =>
    match d.node? mainId with
    | none => (s, .error (.missingMainComponent n.name mainId))
    | some main =>
      match d.mainUse s n main mainId with
      | (s, .error e) => (s, .error e)
      | (s, .ok (component, icon)) =>
        let sorted := PropertyOrder.sortBy PropertyOrder.display (fun e => (e.1, e.2.kind))
          n.componentProperties.entries
        let (s, attributes) := d.attributes s sorted
        (s, .ok { component, attributes, icon, width := n.width, height := n.height })

/-- What is written about a node, before its content is known. -/
def modelNode (n : Node) : ModelNode :=
  { id := n.id, name := n.name, kind := n.kind, tag := Primitive.ofKind n.kind
    slug := Text.camelIdentifier n.name
    visibilityProp := n.propertyReferences.visible.map Text.propertyIdentifier
    swapProp := n.propertyReferences.mainComponent.map Text.propertyIdentifier
    textProp := n.propertyReferences.characters.map Text.propertyIdentifier }

/-- The rendered children of a node. -/
def renderedChildren (d : Document) (id : NodeId) : List Node :=
  (d.children id).filter (·.isRendered)

/-- Visit nodes one after the other, up to the first error. -/
def visitEach (visit : Node → Capture → Capture × Except CompileError Entry) :
    List Node → Capture → Capture × Except CompileError (List Entry)
  | [], s => (s, .ok [])
  | n :: rest, s =>
    match visit n s with
    | (s, .error e) => (s, .error e)
    | (s, .ok entry) =>
      match visitEach visit rest s with
      | (s, .error e) => (s, .error e)
      | (s, .ok entries) => (s, .ok (entry :: entries))

/-- The entries below a node, if there are any. -/
def someEntries : List Entry → Option (List Entry)
  | [] => none
  | entries => some entries

/-- Visit a node; `fuel` bounds the depth below it. -/
def visit (d : Document) : Nat → Node → Capture → Capture × Except CompileError Entry
  | 0, n, s => (s, .ok (.leaf (modelNode n)))
  | fuel + 1, n, s =>
    let m := modelNode n
    let s := s.addLinks n
    if m.swapProp.isSome then (s, .ok (.leaf m))
    else if n.kind.isAsset then (s.addAsset d n, .ok (.mk m none true))
    else if n.kind = .componentInstance then
      match d.instanceUse s n with
      | (s, .error e) => (s, .error e)
      | (s, .ok use) => (s, .ok (.leaf { m with use := some use }))
    else
      let s := (s.addPrimitive m.tag).addStyle m.slug (Style.resolve d n)
      if n.kind = .text then
        let characters := (n.text.map (·.characters)).getD ""
        (s, .ok (.leaf { m with characters := some characters }))
      else
        match visitEach (visit d fuel) (d.renderedChildren n.id) s with
        | (s, .error e) => (s, .error e)
        | (s, .ok entries) => (s, .ok (.mk m (someEntries entries) false))

/-- Whether the style walk passes over a child. -/
def isSkipped (n : Node) : Bool :=
  !n.isRendered || n.propertyReferences.mainComponent.isSome || n.kind.isAsset
    || n.kind == .componentInstance

/-- Collect the styles by slug below a node; `fuel` bounds the depth. -/
def collectStyles (d : Document) : Nat → NodeId → OrderedMap StyleMap → OrderedMap StyleMap
  | 0, _, styles => styles
  | fuel + 1, id, styles =>
    (d.children id).foldl
      (fun styles child =>
        if isSkipped child then styles
        else
          let slug := Text.camelIdentifier child.name
          let styles :=
            if slug.isEmpty then styles else styles.insertIfNew slug (Style.resolve d child)
          if child.kind = .text then styles else collectStyles d fuel child.id styles)
      styles

/-- The styles by slug of a subtree, the root's under the root slug. -/
def subtreeStyles (d : Document) (root : Node) : OrderedMap StyleMap :=
  d.collectStyles d.walkBound root.id (OrderedMap.empty.insert rootSlug (Style.resolve d root))

/-- Record the patch of one member for one slug. -/
def addModifier (key : String) (memberStyles : OrderedMap StyleMap)
    (variants : OrderedMap Modifiers) (base : String × StyleMap) : OrderedMap Modifiers :=
  match memberStyles.get? base.1 with
  | none => variants
  | some style =>
    let patch := StyleMap.patch base.2 style
    if patch.isEmpty then variants
    else variants.insert base.1 (((variants.get? base.1).getD .empty).insert key patch)

/-- Record the patches of one member for every slug of the base. -/
def addMember (d : Document) (base : OrderedMap StyleMap) (variants : OrderedMap Modifiers)
    (member : Node) : OrderedMap Modifiers :=
  base.entries.foldl (addModifier member.variantKey (d.subtreeStyles member)) variants

/-- The members of a set other than the one that is shown. -/
def otherMembers (d : Document) (descriptor : Descriptor) : List Node :=
  (d.children descriptor.id).filter fun n => n.kind == .component && n.id != descriptor.rootNode

/-- The patches of all members by slug. -/
def variantStyles (d : Document) (descriptor : Descriptor) (base : OrderedMap StyleMap) :
    OrderedMap Modifiers :=
  (d.otherMembers descriptor).foldl (d.addMember base) .empty

/-- What the walk starts from: the container tag, the root's style and the root's links. -/
def startCapture (d : Document) (root : Node) : Capture :=
  (({ styles := OrderedMap.empty.insert rootSlug (Style.resolve d root) } : Capture).addPrimitive
    .container).addLinks root

/-- Extract the model of a described component, with the log of the walk. -/
def extract (d : Document) (descriptor : Descriptor) :
    List LogRecord × Except CompileError Model :=
  match d.node? descriptor.rootNode with
  | none => ([], .error (.nodeNotFound descriptor.rootNode))
  | some root =>
    match visitEach (d.visit d.walkBound) (d.renderedChildren root.id) (d.startCapture root) with
    | (s, .error e) => (s.log, .error e)
    | (s, .ok tree) =>
      let variants := if descriptor.isVariant then d.variantStyles descriptor s.styles else .empty
      (s.log, .ok
        { root := { id := root.id, name := root.name, kind := root.kind, tag := .container,
                    slug := rootSlug }
          tree, styles := s.styles, variants, assets := s.assets, links := s.links,
          primitives := s.primitives, components := s.components, icons := s.icons })

end Document
end Handoff
