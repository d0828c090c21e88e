import Handoff.Json.Record
import Handoff.Scene.Property

/-!
# JSON of component properties

A property value is written as itself, a boolean or a string, and nothing else is read as one.
-/

namespace Handoff

namespace PropertyValue

/-- Read a property value. -/
def ofJson? : Json → Option PropertyValue
  | .bool b => some (.bool b)
  | .string s => some (.text s)
  | _ => none

/-- Write a property value. -/
def toJson : PropertyValue → Json
  | .bool b => .bool b
  | .text s => .string s

/-- A written value is read back. -/
theorem ofJson?_toJson (v : PropertyValue) : ofJson? v.toJson = some v := by
  cases v <;> rfl

end PropertyValue

namespace PropertyType

/-- Read a property type. -/
def ofJson? (j : Json) : Option PropertyType := j.token?.bind ofToken?

end PropertyType

namespace PropertyDefinition

/-- Read a definition. -/
def ofJson? (j : Json) : Option PropertyDefinition := do
  let f ← j.fields? ["type", "defaultValue", "variantOptions"]
  let kind ← f.required "type" PropertyType.ofJson?
  let default ← f.withDefault "defaultValue" (.text "") PropertyValue.ofJson?
  let options ← f.withDefault "variantOptions" [] (Json.list? Json.string?)
  return { kind, default, options }

/-- Write a definition; an empty list of options is left out. -/
def toJson (d : PropertyDefinition) : Json :=
  .object ([("type", .string d.kind.token), ("defaultValue", d.default.toJson)]
    ++ Json.memberIf (!d.options.isEmpty) "variantOptions" (.ofStrings d.options))

end PropertyDefinition

/-- The properties that a node's visibility, characters and main component are bound to. -/
structure PropertyReferences where
  visible : Option String := none
  characters : Option String := none
  mainComponent : Option String := none
  deriving DecidableEq, Repr, Inhabited

namespace PropertyReferences

/-- Whether nothing is bound. -/
def isEmpty (r : PropertyReferences) : Bool :=
  r.visible.isNone && r.characters.isNone && r.mainComponent.isNone

/-- Read property references. -/
def ofJson? (j : Json) : Option PropertyReferences := do
  let f ← j.fields? ["visible", "characters", "mainComponent"]
  let visible ← f.optional "visible" Json.string?
  let characters ← f.optional "characters" Json.string?
  let mainComponent ← f.optional "mainComponent" Json.string?
  return { visible, characters, mainComponent }

/-- Write property references. -/
def toJson (r : PropertyReferences) : Json :=
  .object (Json.memberOf "visible" r.visible .string
    ++ Json.memberOf "characters" r.characters .string
    ++ Json.memberOf "mainComponent" r.mainComponent .string)

end PropertyReferences

/-- The value that an instance sets for a property of its main component. -/
structure InstanceProperty where
  kind : PropertyType
  value : PropertyValue
  boundTo : Option String := none
  deriving DecidableEq, Repr, Inhabited

namespace InstanceProperty

/-- Read an instance property. -/
def ofJson? (j : Json) : Option InstanceProperty := do
  let f ← j.fields? ["type", "value", "boundTo"]
  let kind ← f.required "type" PropertyType.ofJson?
  let value ← f.required "value" PropertyValue.ofJson?
  let boundTo ← f.optional "boundTo" Json.string?
  return { kind, value, boundTo }

/-- Write an instance property. -/
def toJson (p : InstanceProperty) : Json :=
  .object ([("type", .string p.kind.token), ("value", p.value.toJson)]
    ++ Json.memberOf "boundTo" p.boundTo .string)

end InstanceProperty
end Handoff
