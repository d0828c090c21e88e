/-!
# Kinds of nodes

Every node of a design document has a kind, written as a token. A token that is none of the known ones
is the kind `unknown`.
-/

namespace Handoff

/-- The identity of a node; it survives renaming and moving. -/
abbrev NodeId := String

/-- The kind of a node. -/
inductive NodeKind where
  | document
  | page
  | section
  | frame
  | group
  | component
  | componentSet
  | componentInstance
  | text
  | rectangle
  | ellipse
  | vector
  | booleanOperation
  | star
  | line
  | polygon
  | image
  | unknown
  deriving DecidableEq, Repr, Inhabited

namespace NodeKind

/-- Every kind, in the order of declaration. -/
def all : List NodeKind :=
  [.document, .page, .section, .frame, .group, .component, .componentSet, .componentInstance,
    .text, .rectangle, .ellipse, .vector, .booleanOperation, .star, .line, .polygon, .image, .unknown]

/-- The token of a kind. -/
def token : NodeKind → String
  | .document => "DOCUMENT"
  | .page => "PAGE"
  | .section => "SECTION"
  | .frame => "FRAME"
  | .group => "GROUP"
  | .component => "COMPONENT"
  | .componentSet => "COMPONENT_SET"
  | .componentInstance => "INSTANCE"
  | .text => "TEXT"
  | .rectangle => "RECTANGLE"
  | .ellipse => "ELLIPSE"
  | .vector => "VECTOR"
  | .booleanOperation => "BOOLEAN_OPERATION"
  | .star => "STAR"
  | .line => "LINE"
  | .polygon => "POLYGON"
  | .image => "IMAGE"
  | .unknown => "UNKNOWN"

/-- The kind of a token; any other token is the kind `unknown`. -/
def ofToken (token : String) : NodeKind :=
  (all.find? (·.token == token)).getD .unknown

/-- Whether nodes of a kind are rendered as one exported asset. -/
def isAsset : NodeKind → Bool
  | .vector | .booleanOperation | .star | .line | .polygon | .image => true
  | _ => false

/-- A token determines its kind. -/
theorem ofToken_token (k : NodeKind) : ofToken k.token = k := by
  cases k <;> decide

end NodeKind
end Handoff
