import Handoff.Json.Record

/-!
# Automatic layout and sizing

A container may lay its children out along one axis, with gaps, paddings and alignments. Independently
a node is sized along each axis: fixed, hugging its content, or filling its container.
-/

namespace Handoff

/-- The axis along which children are laid out. -/
inductive LayoutMode where
  | horizontal
  | vertical
  deriving DecidableEq, Repr, Inhabited

namespace LayoutMode

/-- The token of a mode. -/
def token : LayoutMode → String
  | .horizontal => "HORIZONTAL"
  | .vertical => "VERTICAL"

/-- The mode of a token. -/
def ofToken? (token : String) : Option LayoutMode :=
  [horizontal, vertical].find? (·.token == token)

end LayoutMode

/-- Alignment along an axis. -/
inductive AxisAlign where
  | min
  | center
  | max
  | spaceBetween
  deriving DecidableEq, Repr, Inhabited

namespace AxisAlign

/-- The token of an alignment. -/
def token : AxisAlign → String
  | .min => "MIN"
  | .center => "CENTER"
  | .max => "MAX"
  | .spaceBetween => "SPACE_BETWEEN"

/-- The alignment of a token. -/
def ofToken? (token : String) : Option AxisAlign :=
  [min, center, max, spaceBetween].find? (·.token == token)

end AxisAlign

/-- The automatic layout of a container. -/
structure AutoLayout where
  mode : LayoutMode
  itemSpacing : Binary64 := .zero
  paddingTop : Binary64 := .zero
  paddingRight : Binary64 := .zero
  paddingBottom : Binary64 := .zero
  paddingLeft : Binary64 := .zero
  primaryAxisAlign : AxisAlign := .min
  counterAxisAlign : AxisAlign := .min
  deriving DecidableEq

namespace AutoLayout

/-- The fields of a layout in declaration order. -/
def fieldNames : List String :=
  ["mode", "itemSpacing", "paddingTop", "paddingRight", "paddingBottom", "paddingLeft",
    "primaryAxisAlign", "counterAxisAlign"]

/-- Read a layout; only the mode must be given. -/
def ofJson? (j : Json) : Option AutoLayout := do
  let f ← j.fields? fieldNames
  let mode ← f.required "mode" (fun j => j.token?.bind LayoutMode.ofToken?)
  let itemSpacing ← f.withDefault "itemSpacing" .zero Json.number?
  let paddingTop ← f.withDefault "paddingTop" .zero Json.number?
  let paddingRight ← f.withDefault "paddingRight" .zero Json.number?
  let paddingBottom ← f.withDefault "paddingBottom" .zero Json.number?
  let paddingLeft ← f.withDefault "paddingLeft" .zero Json.number?
  let primaryAxisAlign ←
    f.withDefault "primaryAxisAlign" .min (fun j => j.token?.bind AxisAlign.ofToken?)
  let counterAxisAlign ←
    f.withDefault "counterAxisAlign" .min (fun j => j.token?.bind AxisAlign.ofToken?)
  return { mode, itemSpacing, paddingTop, paddingRight, paddingBottom, paddingLeft,
           primaryAxisAlign, counterAxisAlign }

/-- Write a layout. -/
def toJson (l : AutoLayout) : Json :=
  .object [("mode", .string l.mode.token), ("itemSpacing", .number l.itemSpacing),
    ("paddingTop", .number l.paddingTop), ("paddingRight", .number l.paddingRight),
    ("paddingBottom", .number l.paddingBottom), ("paddingLeft", .number l.paddingLeft),
    ("primaryAxisAlign", .string l.primaryAxisAlign.token),
    ("counterAxisAlign", .string l.counterAxisAlign.token)]

end AutoLayout

/-- How a node is sized along an axis. -/
inductive SizingMode where
  | fixed
  | hug
  | fill
  deriving DecidableEq, Repr

namespace SizingMode

instance : Inhabited SizingMode := ⟨.hug⟩

/-- The token of a sizing mode. -/
def token : SizingMode → String
  | .fixed => "FIXED"
  | .hug => "HUG"
  | .fill => "FILL"

/-- The sizing mode of a token. -/
def ofToken? (token : String) : Option SizingMode :=
  [fixed, hug, fill].find? (·.token == token)

end SizingMode

/-- How a node is sized along both axes. -/
structure Sizing where
  horizontal : SizingMode := .hug
  vertical : SizingMode := .hug
  deriving DecidableEq, Repr, Inhabited

namespace Sizing

/-- Read a sizing. -/
def ofJson? (j : Json) : Option Sizing := do
  let f ← j.fields? ["horizontal", "vertical"]
  let horizontal ← f.withDefault "horizontal" .hug (fun j => j.token?.bind SizingMode.ofToken?)
  let vertical ← f.withDefault "vertical" .hug (fun j => j.token?.bind SizingMode.ofToken?)
  return { horizontal, vertical }

/-- Write a sizing. -/
def toJson (s : Sizing) : Json :=
  .object [("horizontal", .string s.horizontal.token), ("vertical", .string s.vertical.token)]

end Sizing
end Handoff
