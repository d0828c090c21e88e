import Handoff.Color
import Handoff.Json.Tagged
import Handoff.Scene.Kind

/-!
# Paints

A fill or a stroke is a list of paints. Solid paints have a color, which may be bound to a variable;
images name their content; every other paint is kept only as such.
-/

namespace Handoff

/-- A paint. -/
inductive Paint where
  | solid (color : Color) (visible : Bool) (variableId : Option NodeId)
  | image (hash : String)
  | other
  deriving DecidableEq

namespace Paint

/-- A visible, unbound solid paint. -/
def ofColor (color : Color) : Paint := .solid color true none

/-- Whether nothing remains of a tagged value in the form of an array. An object may hold anything. -/
def isBare : Json → Bool
  | .array (_ :: _) => false
  | _ => true

/-- Read a paint; an unknown tag is another kind of paint. -/
def ofJson? (j : Json) : Option Paint := do
  let (tag, content) ← j.tagged?
  match tag with
  | "SOLID" =>
    let f ← content.fields? ["color", "visible", "boundVariable"]
    let color ← f.required "color" Color.ofJson?
    let visible ← f.withDefault "visible" true Json.bool?
    let variableId ← f.optional "boundVariable" Json.string?
    return .solid color visible variableId
  | "IMAGE" =>
    let f ← content.fields? ["imageHash"]
    let hash ← f.withDefault "imageHash" "" Json.string?
    return .image hash
  | _ => if isBare content then return .other else none

/-- Write a paint. -/
def toJson : Paint → Json
  | solid color visible variableId =>
    Json.withTag "SOLID" ([("color", color.toJson), ("visible", .bool visible)]
      ++ Json.memberOf "boundVariable" variableId .string)
  | image hash => Json.withTag "IMAGE" [("imageHash", .string hash)]
  | other => Json.withTag "OTHER" []

end Paint
end Handoff
