import Handoff.Scene.Kind

/-!
# Primitive tags

Markup is made of four primitive tags. Every kind of node has one, and components always render the
container tag at their root.
-/

namespace Handoff

/-- A primitive tag. -/
inductive Primitive where
  | view
  | text
  | image
  | svg
  deriving DecidableEq, Repr, Inhabited

namespace Primitive

/-- The tag that contains others. -/
def container : Primitive := .view

/-- The tag of a kind of node. -/
def ofKind : NodeKind → Primitive
  | .text => .text
  | .image => .image
  | .vector => .svg
  | _ => .view

/-- The name of a tag. -/
def tag : Primitive → String
  | .view => "View"
  | .text => "Text"
  | .image => "Image"
  | .svg => "Svg"

/-- The primitive of a tag name. A name that is no tag stands for the container. -/
def ofTag (name : String) : Primitive :=
  ([view, text, image, svg].find? (·.tag == name)).getD container

/-- A tag name determines its primitive. -/
theorem ofTag_tag (p : Primitive) : ofTag p.tag = p := by
  cases p <;> decide

end Primitive
end Handoff
