import Handoff.Scene.Document
import Handoff.Text.Identifier

/-!
# Color tokens

A token names a color, given outright or by reference to a token of the flat `colors` object. Tokens
are kept under their identifiers: where two sources give the same identifier, the later one counts, at
the place of the first.
-/

namespace Handoff

/-- The color of a token. -/
inductive TokenValue where
  | color (color : Color)
  /-- The token of the same name in the `colors` object. -/
  | reference (token : String)
  deriving DecidableEq

/-- A color token. -/
structure Token where
  value : TokenValue
  comment : String
  deriving DecidableEq

/-- Tokens by identifier. -/
abbrev Tokens := OrderedMap Token

namespace Document

/-- The color variables of a collection. -/
def colorVariables (d : Document) (c : VariableCollection) : List Variable :=
  (c.variableIds.filterMap d.variableById?).filter (·.resolvedType == .color)

end Document

/-- A color given outright. -/
def VariableValue.color? : VariableValue → Option Color
  | .color c => some c
  | _ => none

namespace Document

/-- The color of a value: an alias has the first color that the variable it names is given. -/
def valueColor? (d : Document) : VariableValue → Option Color
  | .color c => some c
  | .alias id => (d.variableById? id).bind fun v => v.valuesByMode.values.findSome? (·.color?)
  | _ => none

/-- The color of a variable in a mode, or in its first mode if it has no value there. -/
def variableColor? (d : Document) (v : Variable) (modeId : String) : Option Color :=
  ((v.valuesByMode.get? modeId).or v.valuesByMode.values.head?).bind d.valueColor?

/-- The token of a variable in the `colors` object. -/
def colorToken? (d : Document) (modeId : String) (v : Variable) : Option (String × Token) :=
  (d.variableColor? v modeId).map fun c => (Text.camelIdentifier v.name, ⟨.color c, v.description⟩)

/-- The tokens of the `colors` object: the colors of a collection in its default mode. -/
def colorTokens (d : Document) (c : VariableCollection) : Tokens :=
  .ofList ((d.colorVariables c).filterMap (d.colorToken? c.defaultModeId))

/-- The value of a theme's token: an alias is a reference to the token of the variable it names. -/
def tokenValue? (d : Document) : VariableValue → Option TokenValue
  | .color c => some (.color c)
  | .alias id => (d.variableById? id).map fun v => .reference (Text.camelIdentifier v.name)
  | _ => none

/-- The token of a variable in the theme of a mode. -/
def themeToken? (d : Document) (modeId : String) (v : Variable) : Option (String × Token) :=
  ((v.valuesByMode.get? modeId).bind d.tokenValue?).map fun value =>
    (Text.camelIdentifier v.name, ⟨value, v.description⟩)

/-- What the variables of a collection contribute to the theme of a mode. -/
def modeContributions (d : Document) (c : VariableCollection) (modeId : String) :
    List (String × Token) :=
  (d.colorVariables c).filterMap (d.themeToken? modeId)

end Document

/-- The first solid color of a list of paints, and black if there is none. -/
def solidColor : List Paint → Color
  | [] => .black
  | .solid c _ _ :: _ => c
  | _ :: rest => solidColor rest

/-- The token of a paint style. -/
def PaintStyle.token (s : PaintStyle) : String × Token :=
  (Text.camelIdentifier s.name, ⟨.color (solidColor s.paints), s.description⟩)

/-- What the paint styles of a document contribute to every theme. -/
def Document.styleContributions (d : Document) : List (String × Token) :=
  d.paintStyles.map (·.token)

end Handoff
