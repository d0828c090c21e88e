import Handoff.Json.Record

/-!
# Text nodes

A text node has characters and typographic attributes, of which the font and the line height may be
left open.
-/

namespace Handoff

/-- The alignment of lines. -/
inductive TextAlign where
  | left
  | center
  | right
  | justified
  deriving DecidableEq, Repr, Inhabited

namespace TextAlign

/-- The token of an alignment. -/
def token : TextAlign → String
  | .left => "LEFT"
  | .center => "CENTER"
  | .right => "RIGHT"
  | .justified => "JUSTIFIED"

/-- The alignment of a token. -/
def ofToken? (token : String) : Option TextAlign :=
  [left, center, right, justified].find? (·.token == token)

end TextAlign

/-- The characters and attributes of a text node. -/
structure TextStyle where
  characters : String := ""
  fontFamily : Option String := none
  fontWeight : Option Binary64 := none
  fontSize : Option Binary64 := none
  lineHeight : Option Binary64 := none
  letterSpacing : Binary64 := .zero
  textAlign : TextAlign := .left
  deriving DecidableEq, Inhabited

namespace TextStyle

/-- The fields of a text style in declaration order. -/
def fieldNames : List String :=
  ["characters", "fontFamily", "fontWeight", "fontSize", "lineHeight", "letterSpacing", "textAlign"]

/-- Read a text style. -/
def ofJson? (j : Json) : Option TextStyle := do
  let f ← j.fields? fieldNames
  let characters ← f.withDefault "characters" "" Json.string?
  let fontFamily ← f.optional "fontFamily" Json.string?
  let fontWeight ← f.optional "fontWeight" Json.number?
  let fontSize ← f.optional "fontSize" Json.number?
  let lineHeight ← f.optional "lineHeight" Json.number?
  let letterSpacing ← f.withDefault "letterSpacing" .zero Json.number?
  let textAlign ← f.withDefault "textAlign" .left (fun j => j.token?.bind TextAlign.ofToken?)
  return { characters, fontFamily, fontWeight, fontSize, lineHeight, letterSpacing, textAlign }

/-- Write a text style. -/
def toJson (t : TextStyle) : Json :=
  .object ([("characters", .string t.characters)]
    ++ Json.memberOf "fontFamily" t.fontFamily .string
    ++ Json.memberOf "fontWeight" t.fontWeight .number
    ++ Json.memberOf "fontSize" t.fontSize .number
    ++ Json.memberOf "lineHeight" t.lineHeight .number
    ++ [("letterSpacing", .number t.letterSpacing), ("textAlign", .string t.textAlign.token)])

end TextStyle
end Handoff
