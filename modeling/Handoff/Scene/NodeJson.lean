import Handoff.Scene.Node

/-!
# JSON of nodes

Only the id, the name and the kind of a node must be given. Written nodes leave out empty lists and
maps, absent options and the default sizing, and spell everything else out.
-/

namespace Handoff

namespace Reaction

/-- Read a reaction. -/
def ofJson? (j : Json) : Option Reaction := do
  let f ← j.fields? ["trigger", "url"]
  let trigger ← f.required "trigger" Json.string?
  let url ← f.optional "url" Json.string?
  return { trigger, url }

/-- Write a reaction. -/
def toJson (r : Reaction) : Json :=
  .object ([("trigger", .string r.trigger)] ++ Json.memberOf "url" r.url .string)

end Reaction

namespace ExportedAsset

/-- Read an export. -/
def ofJson? (j : Json) : Option ExportedAsset := do
  let f ← j.fields? ["format", "data"]
  let format ← f.required "format" (fun j => j.token?.bind AssetFormat.ofToken?)
  let data ← f.required "data" Json.string?
  return { format, data }

/-- Write an export. -/
def toJson (e : ExportedAsset) : Json :=
  .object [("format", .string e.format.token), ("data", .string e.data)]

end ExportedAsset

namespace Node

/-- The fields of a node in declaration order. -/
def fieldNames : List String :=
  ["id", "name", "type", "children", "visible", "width", "height", "description",
    "documentationLinks", "layout", "sizing", "fills", "strokes", "strokeWeight", "cornerRadius",
    "opacity", "text", "propertyDefinitions", "propertyReferences", "componentProperties",
    "variantProperties", "mainComponent", "reactions", "export", "pluginData"]

/-- Read a node. -/
def ofJson? (j : Json) : Option Node := do
  let f ← j.fields? fieldNames
  let id ← f.required "id" Json.string?
  let name ← f.required "name" Json.string?
  let kind ← f.required "type" (fun j => j.token?.map NodeKind.ofToken)
  let children ← f.withDefault "children" [] (Json.list? Json.string?)
  let visible ← f.withDefault "visible" true Json.bool?
  let width ← f.withDefault "width" .zero Json.number?
  let height ← f.withDefault "height" .zero Json.number?
  let description ← f.withDefault "description" "" Json.string?
  let documentationLinks ← f.withDefault "documentationLinks" [] (Json.list? Json.string?)
  let layout ← f.optional "layout" AutoLayout.ofJson?
  let sizing ← f.withDefault "sizing" {} Sizing.ofJson?
  let fills ← f.withDefault "fills" [] (Json.list? Paint.ofJson?)
  let strokes ← f.withDefault "strokes" [] (Json.list? Paint.ofJson?)
  let strokeWeight ← f.withDefault "strokeWeight" .zero Json.number?
  let cornerRadius ← f.withDefault "cornerRadius" .zero Json.number?
  let opacity ← f.withDefault "opacity" .one Json.number?
  let text ← f.optional "text" TextStyle.ofJson?
  let propertyDefinitions ←
    f.withDefault "propertyDefinitions" .empty (Json.orderedMap? PropertyDefinition.ofJson?)
  let propertyReferences ← f.withDefault "propertyReferences" {} PropertyReferences.ofJson?
  let componentProperties ←
    f.withDefault "componentProperties" .empty (Json.orderedMap? InstanceProperty.ofJson?)
  let variantProperties ← f.withDefault "variantProperties" .empty (Json.orderedMap? Json.string?)
  let mainComponent ← f.optional "mainComponent" Json.string?
  let reactions ← f.withDefault "reactions" [] (Json.list? Reaction.ofJson?)
  let exported ← f.optional "export" ExportedAsset.ofJson?
  let pluginData ←
    f.withDefault "pluginData" .empty (Json.sortedMap? (Json.sortedMap? Json.string?))
  return { id, name, kind, children, visible, width, height, description, documentationLinks,
           layout, sizing, fills, strokes, strokeWeight, cornerRadius, opacity, text,
           propertyDefinitions, propertyReferences, componentProperties, variantProperties,
           mainComponent, reactions, exported, pluginData }

/-- The members of a node's object. -/
def members (n : Node) : List (String × Json) :=
  [("id", .string n.id), ("name", .string n.name), ("type", .string n.kind.token)]
    ++ Json.memberIf (!n.children.isEmpty) "children" (.ofStrings n.children)
    ++ [("visible", .bool n.visible), ("width", .number n.width), ("height", .number n.height)]
    ++ Json.memberIf (!n.description.isEmpty) "description" (.string n.description)
    ++ Json.memberIf (!n.documentationLinks.isEmpty) "documentationLinks"
        (.ofStrings n.documentationLinks)
    ++ Json.memberOf "layout" n.layout AutoLayout.toJson
    ++ Json.memberIf (n.sizing ≠ {}) "sizing" n.sizing.toJson
    ++ Json.memberIf (!n.fills.isEmpty) "fills" (.array (n.fills.map Paint.toJson))
    ++ Json.memberIf (!n.strokes.isEmpty) "strokes" (.array (n.strokes.map Paint.toJson))
    ++ [("strokeWeight", .number n.strokeWeight), ("cornerRadius", .number n.cornerRadius),
        ("opacity", .number n.opacity)]
    ++ Json.memberOf "text" n.text TextStyle.toJson
    ++ Json.memberIf (!n.propertyDefinitions.isEmpty) "propertyDefinitions"
        (.ofOrderedMap n.propertyDefinitions PropertyDefinition.toJson)
    ++ Json.memberIf (!n.propertyReferences.isEmpty) "propertyReferences" n.propertyReferences.toJson
    ++ Json.memberIf (!n.componentProperties.isEmpty) "componentProperties"
        (.ofOrderedMap n.componentProperties InstanceProperty.toJson)
    ++ Json.memberIf (!n.variantProperties.isEmpty) "variantProperties"
        (.ofOrderedMap n.variantProperties .string)
    ++ Json.memberOf "mainComponent" n.mainComponent .string
    ++ Json.memberIf (!n.reactions.isEmpty) "reactions" (.array (n.reactions.map Reaction.toJson))
    ++ Json.memberOf "export" n.exported ExportedAsset.toJson
    ++ Json.memberIf (!n.pluginData.isEmpty) "pluginData"
        (.ofSortedMap n.pluginData (fun group => .ofSortedMap group .string))

/-- Write a node. -/
def toJson (n : Node) : Json := .object n.members

end Node
end Handoff
