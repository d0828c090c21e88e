import Handoff.Scene.Edit

/-!
# Building documents step by step

A builder numbers the nodes it creates. Its calls name nodes that must exist; a call that names
another one is refused, and a refused call for a new node still uses up its number.
-/

namespace Handoff

/-- Why a builder call is refused. -/
inductive BuilderFault where
  | refused (cause : CompileError)
  | unknownNode (id : NodeId)
  | unknownCollection (id : NodeId)
  deriving DecidableEq, Repr, Inhabited

/-- The wording of a refusal. -/
def BuilderFault.message : BuilderFault → String
  | .refused cause => "invalid builder call: " ++ cause.message
  | .unknownNode id => "invalid builder call: unknown node " ++ id
  | .unknownCollection id => "invalid builder call: unknown collection " ++ id

/-- A document under construction, and how many numbers are used up. -/
structure Builder where
  document : Document
  used : Nat := 0
  deriving DecidableEq

namespace Builder

/-- A builder of a document without nodes. -/
def ofName (name : String) : Builder := { document := { name } }

/-- Add a numbered node. The builder of a refused call has used up the number. -/
def push (b : Builder) (parent : Option NodeId) (make : NodeId → Node) :
    Builder × Except BuilderFault NodeId :=
  let id := "1:" ++ toString (b.used + 1)
  match b.document.addNode (make id) parent with
  | .ok document => ({ document, used := b.used + 1 }, .ok id)
  | .error e => ({ b with used := b.used + 1 }, .error (.refused e))

/-- Add a page. -/
def page (b : Builder) (name : String) : Builder × Except BuilderFault NodeId :=
  b.push none fun id => { id, name, kind := .page }

/-- Add a node of a kind. -/
def node (b : Builder) (parent : NodeId) (kind : NodeKind) (name : String) :
    Builder × Except BuilderFault NodeId :=
  b.push (some parent) fun id => { id, name, kind }

/-- Change a node. -/
def edit (b : Builder) (id : NodeId) (f : Node → Node) : Builder × Except BuilderFault Unit :=
  if b.document.contains id then ({ b with document := b.document.modifyNode id f }, .ok ())
  else (b, .error (.unknownNode id))

/-- Add a node and change it at once. -/
def nodeWith (b : Builder) (parent : NodeId) (kind : NodeKind) (name : String) (f : Node → Node) :
    Builder × Except BuilderFault NodeId :=
  b.push (some parent) fun id => f { id, name, kind }

/-- Register an option of a variant property. -/
def registerOption (definitions : OrderedMap PropertyDefinition) (pair : String × String) :
    OrderedMap PropertyDefinition :=
  let fresh : PropertyDefinition := ⟨.variant, .text pair.2, []⟩
  let known := definitions.insertIfNew pair.1 fresh
  known.modify pair.1 fun d =>
    if d.options.contains pair.2 then d else { d with options := d.options ++ [pair.2] }

/-- Add a member of a variant set and register its values with the set. -/
def variant (b : Builder) (set : NodeId) (values : List (String × String)) :
    Builder × Except BuilderFault NodeId :=
  let properties := OrderedMap.ofList values
  let added := b.nodeWith set .component (VariantKey.ofAssignments values) fun n =>
    { n with variantProperties := properties }
  match added with
  | (b', .ok id) =>
    let document := b'.document.modifyNode set fun n =>
      { n with propertyDefinitions := values.foldl registerOption n.propertyDefinitions }
    ({ b' with document }, .ok id)
  | (b', .error e) => (b', .error e)

/-- Add a text node. -/
def text (b : Builder) (parent : NodeId) (name characters : String) :
    Builder × Except BuilderFault NodeId :=
  b.nodeWith parent .text name fun n => { n with text := some { characters } }

/-- Add an instance of a component. -/
def instanceOf (b : Builder) (parent : NodeId) (name : String) (main : NodeId) :
    Builder × Except BuilderFault NodeId :=
  b.nodeWith parent .componentInstance name fun n => { n with mainComponent := some main }

/-- The side of a vector that the builder adds. -/
def vectorSide : Binary64 := (Binary64.ofNat? 24).getD .zero

/-- Add a vector with its markup. -/
def vector (b : Builder) (parent : NodeId) (name svg : String) :
    Builder × Except BuilderFault NodeId :=
  b.nodeWith parent .vector name fun n =>
    { n with width := vectorSide, height := vectorSide, exported := some ⟨.svg, svg⟩ }

/-- Define a property of a component. -/
def defineProperty (b : Builder) (component : NodeId) (key : String) (kind : PropertyType)
    (default : PropertyValue) : Builder × Except BuilderFault Unit :=
  b.edit component fun n =>
    { n with propertyDefinitions := n.propertyDefinitions.insert key ⟨kind, default, []⟩ }

/-- Bind attributes of a node to properties. -/
def bind (b : Builder) (id : NodeId) (references : PropertyReferences) :
    Builder × Except BuilderFault Unit :=
  b.edit id fun n => { n with propertyReferences := references }

/-- Set a property of an instance. -/
def setInstanceProperty (b : Builder) (id : NodeId) (key : String) (property : InstanceProperty) :
    Builder × Except BuilderFault Unit :=
  b.edit id fun n => { n with componentProperties := n.componentProperties.insert key property }

/-- Add a solid fill. -/
def fill (b : Builder) (id : NodeId) (color : Color) : Builder × Except BuilderFault Unit :=
  b.edit id fun n => { n with fills := n.fills ++ [.ofColor color] }

/-- Add a variable collection; its first mode is the default. -/
def collection (b : Builder) (name : String) (modes : List String) : Builder × NodeId :=
  let id := "VariableCollectionId:" ++ toString (b.document.collections.length + 1)
  let modes := modes.zipIdx.map fun (mode, i) =>
    ({ modeId := id ++ ":" ++ toString i, name := mode } : VariableMode)
  let defaultModeId := (modes.head?.map (·.modeId)).getD ""
  let added : VariableCollection := { id, name, modes, defaultModeId }
  let document := { b.document with collections := b.document.collections ++ [added] }
  ({ b with document }, id)

/-- Note a variable with the first collection of an id. -/
def noteVariable (collectionId variableId : NodeId) :
    List VariableCollection → List VariableCollection
  | [] => []
  | c :: rest =>
    if c.id = collectionId then { c with variableIds := c.variableIds ++ [variableId] } :: rest
    else c :: noteVariable collectionId variableId rest

/-- Add a color variable with one value for each mode of its collection, in mode order. -/
def colorVariable (b : Builder) (collectionId : NodeId) (name : String)
    (values : List VariableValue) : Builder × Except BuilderFault NodeId :=
  let id := "VariableID:" ++ toString (b.document.localVariables.length + 1)
  match b.document.collections.find? (·.id == collectionId) with
  | none => (b, .error (.unknownCollection collectionId))
  | some c =>
    let added : Variable :=
      { id, name, resolvedType := .color,
        valuesByMode := OrderedMap.ofList ((c.modes.map (·.modeId)).zip values) }
    let document :=
      { b.document with
        collections := noteVariable collectionId id b.document.collections
        localVariables := b.document.localVariables ++ [added] }
    ({ b with document }, .ok id)

/-- Add a paint style with one solid paint. -/
def paintStyle (b : Builder) (name : String) (color : Color) : Builder :=
  let id := "S:" ++ toString (b.document.paintStyles.length + 1)
  let added : PaintStyle := { id, name, paints := [.ofColor color] }
  { b with document := { b.document with paintStyles := b.document.paintStyles ++ [added] } }

/-- Select a node. -/
def select (b : Builder) (id : NodeId) : Builder :=
  { b with document := { b.document with selection := b.document.selection ++ [id] } }

end Builder
end Handoff
