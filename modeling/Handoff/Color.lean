import Handoff.Bytes.Hex
import Handoff.Json.Record
import Handoff.Number.Hundredths

/-!
# Colors

A color has four channels between zero and one. An opaque color is written as six hexadecimal digits,
a translucent one with its channels as numbers up to 255 and its opacity in hundredths.
-/

namespace Handoff

/-- A color with its opacity. -/
structure Color where
  red : Binary64
  green : Binary64
  blue : Binary64
  opacity : Binary64
  deriving DecidableEq

namespace Color

/-- Opaque black. -/
def black : Color := ⟨.zero, .zero, .zero, .one⟩

/-- The hexadecimal digits of a channel. -/
def channelHex (x : Binary64) : List Char :=
  Bytes.hexChars [UInt8.ofNat (x.portion 255)]

/-- The style sheet text of a color. -/
def text (c : Color) : String :=
  if c.opacity.less .one then
    "rgba(" ++ toString (c.red.portion 255) ++ ", " ++ toString (c.green.portion 255) ++ ", "
      ++ toString (c.blue.portion 255) ++ ", " ++ hundredthsText (c.opacity.portion 100) ++ ")"
  else String.ofList ('#' :: (channelHex c.red ++ channelHex c.green ++ channelHex c.blue))

/-- Numerical equality of all channels. -/
def same (c d : Color) : Bool :=
  c.red.same d.red && c.green.same d.green && c.blue.same d.blue && c.opacity.same d.opacity

/-- Read a color; without an opacity it is opaque. -/
def ofJson? (j : Json) : Option Color := do
  let f ← j.fields? ["r", "g", "b", "a"]
  let red ← f.required "r" Json.number?
  let green ← f.required "g" Json.number?
  let blue ← f.required "b" Json.number?
  let opacity ← f.withDefault "a" .one Json.number?
  return { red, green, blue, opacity }

/-- The members of a color's object. -/
def members (c : Color) : List (String × Json) :=
  [("r", .number c.red), ("g", .number c.green), ("b", .number c.blue), ("a", .number c.opacity)]

/-- Write a color. -/
def toJson (c : Color) : Json := .object c.members

end Color
end Handoff
