import Handoff.Scene.Document
import Handoff.Style.Sheet
import Handoff.Text.Identifier

/-!
# The style of a node

A node's looks determine its style map: layout, sizing, fill, stroke, corners, opacity and, for text
nodes, typography, written in that order. A property that would only repeat a default is left out. A
color that is bound to an existing variable refers to the theme instead of spelling the color.
-/

namespace Handoff

/-- A list of style properties with their values. -/
abbrev StyleEntries := List (String × StyleValue)

namespace Style

/-- A property with a number. -/
def numberEntry (property : String) (x : Binary64) : String × StyleValue := (property, .number x)

/-- A property with a word. -/
def wordEntry (property word : String) : String × StyleValue := (property, .string word)

/-- Whether a number is above zero. -/
def isPositive (x : Binary64) : Bool := Binary64.zero.less x

/-- Whether a number is not zero. -/
def isNonzero (x : Binary64) : Bool := !x.same .zero

/-- The theme expression of a variable's color. -/
def themeColor (variableName : String) : String := "theme.colors." ++ Text.camelIdentifier variableName

/-- The color of a solid paint: the theme color of its variable if that exists. -/
def paintColor (d : Document) (color : Color) (variableId : Option NodeId) : StyleValue :=
  match variableId.bind d.variableById? with
  | some v => .theme (themeColor v.name)
  | none => .string color.text

/-- The color of the first visible solid paint. -/
def firstSolid? (d : Document) (paints : List Paint) : Option StyleValue :=
  paints.findSome? fun
    | .solid color true variableId => some (paintColor d color variableId)
    | _ => none

/-- The direction of the main axis. -/
def direction : LayoutMode → String
  | .horizontal => "row"
  | .vertical => "column"

/-- Alignment along the main axis; the start is the default. -/
def justification : AxisAlign → StyleEntries
  | .min => []
  | .center => [wordEntry "justifyContent" "center"]
  | .max => [wordEntry "justifyContent" "flex-end"]
  | .spaceBetween => [wordEntry "justifyContent" "space-between"]

/-- Alignment across the main axis; the start is the default, and nothing can be spread. -/
def crossAlignment : AxisAlign → StyleEntries
  | .center => [wordEntry "alignItems" "center"]
  | .max => [wordEntry "alignItems" "flex-end"]
  | .min | .spaceBetween => []

/-- Paddings: one property if all sides are equal, else one for each side that has any. -/
def padding (l : AutoLayout) : StyleEntries :=
  let top := l.paddingTop
  if l.paddingRight.same top && l.paddingBottom.same top && l.paddingLeft.same top then
    if isPositive top then [numberEntry "padding" top] else []
  else
    [("paddingTop", l.paddingTop), ("paddingRight", l.paddingRight),
      ("paddingBottom", l.paddingBottom), ("paddingLeft", l.paddingLeft)].filterMap
      fun (side, x) => if isNonzero x then some (numberEntry side x) else none

/-- The properties of an automatic layout. -/
def layout (l : AutoLayout) : StyleEntries :=
  [wordEntry "flexDirection" (direction l.mode)] ++ justification l.primaryAxisAlign
    ++ crossAlignment l.counterAxisAlign
    ++ (if isPositive l.itemSpacing then [numberEntry "gap" l.itemSpacing] else [])
    ++ padding l

/-- The properties of a node's sizing. -/
def sizing (n : Node) : StyleEntries :=
  (match n.sizing.horizontal with
    | .fixed => [numberEntry "width" n.width]
    | .fill => [numberEntry "flexGrow" .one]
    | .hug => [])
  ++ match n.sizing.vertical with
    | .fixed => [numberEntry "height" n.height]
    | .fill => [wordEntry "alignSelf" "stretch"]
    | .hug => []

/-- The property that a fill sets. -/
def fillProperty (kind : NodeKind) : String := if kind = .text then "color" else "backgroundColor"

/-- The properties of the first visible fill. -/
def fill (d : Document) (n : Node) : StyleEntries :=
  match firstSolid? d n.fills with
  | some color => [(fillProperty n.kind, color)]
  | none => []

/-- The properties of the first visible stroke, if it has a weight. -/
def stroke (d : Document) (n : Node) : StyleEntries :=
  match firstSolid? d n.strokes with
  | some color =>
    if isPositive n.strokeWeight then
      [numberEntry "borderWidth" n.strokeWeight, wordEntry "borderStyle" "solid",
        ("borderColor", color)]
    else []
  | none => []

/-- The corner radius; an ellipse is as round as its shorter side allows. -/
def radius (n : Node) : Binary64 :=
  if n.kind = .ellipse then (n.width.min n.height).half else n.cornerRadius

/-- The properties of corners and opacity. -/
def shape (n : Node) : StyleEntries :=
  (if isPositive (radius n) then [numberEntry "borderRadius" (radius n)] else [])
    ++ if n.opacity.less .one then [numberEntry "opacity" n.opacity] else []

/-- The alignment of text lines; left is the default. -/
def lineAlignment : TextAlign → StyleEntries
  | .left => []
  | .center => [wordEntry "textAlign" "center"]
  | .right => [wordEntry "textAlign" "right"]
  | .justified => [wordEntry "textAlign" "justify"]

/-- The properties of typography. A weight is written as a word. -/
def typography (t : TextStyle) : StyleEntries :=
  (t.fontFamily.map (wordEntry "fontFamily")).toList
    ++ (t.fontSize.map (numberEntry "fontSize")).toList
    ++ (t.fontWeight.map (fun w => wordEntry "fontWeight" w.styleText)).toList
    ++ (t.lineHeight.map (numberEntry "lineHeight")).toList
    ++ (if isNonzero t.letterSpacing then [numberEntry "letterSpacing" t.letterSpacing] else [])
    ++ lineAlignment t.textAlign

/-- The properties of a text node's typography. -/
def textEntries (n : Node) : StyleEntries :=
  match n.kind, n.text with
  | .text, some t => typography t
  | _, _ => []

/-- All properties of a node in the order in which they are written. -/
def entries (d : Document) (n : Node) : StyleEntries :=
  (n.layout.map layout).getD [] ++ sizing n ++ fill d n ++ stroke d n ++ shape n ++ textEntries n

/-- The style map of a node. -/
def resolve (d : Document) (n : Node) : StyleMap := OrderedMap.ofList (entries d n)

end Style
end Handoff
