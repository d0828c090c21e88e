import Handoff.Ordered.Map
import Handoff.Scene.Paint

/-!
# Variables and paint styles

Variables belong to collections. A collection has modes, and a variable has a value for each mode,
given outright or as an alias of another variable. Paint styles are named lists of paints.
-/

namespace Handoff

/-- A mode of a collection. -/
structure VariableMode where
  modeId : String
  name : String
  deriving DecidableEq, Repr, Inhabited

/-- A collection of variables. -/
structure VariableCollection where
  id : NodeId
  name : String
  modes : List VariableMode
  defaultModeId : String
  variableIds : List NodeId := []
  deriving DecidableEq, Repr, Inhabited

namespace VariableCollection

/-- The default mode, if the collection has it. -/
def defaultMode? (c : VariableCollection) : Option VariableMode :=
  c.modes.find? (·.modeId == c.defaultModeId)

end VariableCollection

/-- The type of a variable. -/
inductive VariableType where
  | color
  | float
  | string
  | boolean
  deriving DecidableEq, Repr, Inhabited

namespace VariableType

/-- The token of a type. -/
def token : VariableType → String
  | .color => "COLOR"
  | .float => "FLOAT"
  | .string => "STRING"
  | .boolean => "BOOLEAN"

/-- The type of a token. -/
def ofToken? (token : String) : Option VariableType :=
  [color, float, string, boolean].find? (·.token == token)

end VariableType

/-- The value of a variable in a mode. -/
inductive VariableValue where
  | color (color : Color)
  | alias (id : NodeId)
  | float (value : Binary64)
  | string (value : String)
  | boolean (value : Bool)
  deriving DecidableEq

/-- A variable. -/
structure Variable where
  id : NodeId
  name : String
  description : String := ""
  resolvedType : VariableType
  valuesByMode : OrderedMap VariableValue := .empty
  deriving DecidableEq

/-- A paint style. -/
structure PaintStyle where
  id : NodeId
  name : String
  description : String := ""
  paints : List Paint := []
  deriving DecidableEq

namespace VariableMode

/-- Read a mode. -/
def ofJson? (j : Json) : Option VariableMode := do
  let f ← j.fields? ["modeId", "name"]
  let modeId ← f.required "modeId" Json.string?
  let name ← f.required "name" Json.string?
  return { modeId, name }

/-- Write a mode. -/
def toJson (m : VariableMode) : Json :=
  .object [("modeId", .string m.modeId), ("name", .string m.name)]

end VariableMode

namespace VariableCollection

/-- Read a collection. -/
def ofJson? (j : Json) : Option VariableCollection := do
  let f ← j.fields? ["id", "name", "modes", "defaultModeId", "variableIds"]
  let id ← f.required "id" Json.string?
  let name ← f.required "name" Json.string?
  let modes ← f.required "modes" (Json.list? VariableMode.ofJson?)
  let defaultModeId ← f.required "defaultModeId" Json.string?
  let variableIds ← f.withDefault "variableIds" [] (Json.list? Json.string?)
  return { id, name, modes, defaultModeId, variableIds }

/-- Write a collection. -/
def toJson (c : VariableCollection) : Json :=
  .object [("id", .string c.id), ("name", .string c.name),
    ("modes", .array (c.modes.map VariableMode.toJson)),
    ("defaultModeId", .string c.defaultModeId), ("variableIds", .ofStrings c.variableIds)]

end VariableCollection

namespace VariableValue

/-- Read a value. -/
def ofJson? (j : Json) : Option VariableValue := do
  let (tag, content) ← j.tagged?
  match tag with
  | "COLOR" => return .color (← Color.ofJson? content)
  | "VARIABLE_ALIAS" => return .alias (← (← content.fields? ["id"]).required "id" Json.string?)
  | "FLOAT" => return .float (← (← content.fields? ["value"]).required "value" Json.number?)
  | "STRING" => return .string (← (← content.fields? ["value"]).required "value" Json.string?)
  | "BOOLEAN" => return .boolean (← (← content.fields? ["value"]).required "value" Json.bool?)
  | _ => none

/-- Write a value. -/
def toJson : VariableValue → Json
  | .color c => Json.withTag "COLOR" c.members
  | .alias id => Json.withTag "VARIABLE_ALIAS" [("id", .string id)]
  | .float value => Json.withTag "FLOAT" [("value", .number value)]
  | .string value => Json.withTag "STRING" [("value", .string value)]
  | .boolean value => Json.withTag "BOOLEAN" [("value", .bool value)]

end VariableValue

namespace Variable

/-- Read a variable. -/
def ofJson? (j : Json) : Option Variable := do
  let f ← j.fields? ["id", "name", "description", "resolvedType", "valuesByMode"]
  let id ← f.required "id" Json.string?
  let name ← f.required "name" Json.string?
  let description ← f.withDefault "description" "" Json.string?
  let resolvedType ← f.required "resolvedType" (fun j => j.token?.bind VariableType.ofToken?)
  let valuesByMode ← f.withDefault "valuesByMode" .empty (Json.orderedMap? VariableValue.ofJson?)
  return { id, name, description, resolvedType, valuesByMode }

/-- Write a variable. -/
def toJson (v : Variable) : Json :=
  .object [("id", .string v.id), ("name", .string v.name), ("description", .string v.description),
    ("resolvedType", .string v.resolvedType.token),
    ("valuesByMode", .ofOrderedMap v.valuesByMode VariableValue.toJson)]

end Variable

namespace PaintStyle

/-- Read a paint style. -/
def ofJson? (j : Json) : Option PaintStyle := do
  let f ← j.fields? ["id", "name", "description", "paints"]
  let id ← f.required "id" Json.string?
  let name ← f.required "name" Json.string?
  let description ← f.withDefault "description" "" Json.string?
  let paints ← f.withDefault "paints" [] (Json.list? Paint.ofJson?)
  return { id, name, description, paints }

/-- Write a paint style. -/
def toJson (s : PaintStyle) : Json :=
  .object [("id", .string s.id), ("name", .string s.name), ("description", .string s.description),
    ("paints", .array (s.paints.map Paint.toJson))]

end PaintStyle
end Handoff
