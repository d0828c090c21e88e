import Handoff.Text.HexDigit

/-!
# Bytes and hexadecimal text

A byte string is a list of bytes. Its hexadecimal text writes two small digits a byte; reading accepts
digits of both cases and an even number of them. Text becomes bytes through its UTF-8 form.
-/

namespace Handoff

/-- A byte string. -/
abbrev Bytes := List UInt8

namespace Bytes

/-- The UTF-8 bytes of a text. -/
def ofText (s : String) : Bytes := s.toUTF8.data.toList

/-- The text of a byte string, if it is valid UTF-8. -/
def toText? (b : Bytes) : Option String := String.fromUTF8? (ByteArray.mk b.toArray)

/-- The hexadecimal digits of a byte string. -/
def hexChars (b : Bytes) : List Char :=
  b.flatMap fun byte => [Nat.digitChar (byte.toNat / 16), Nat.digitChar (byte.toNat % 16)]

/-- The hexadecimal text of a byte string. -/
def toHex (b : Bytes) : String := String.ofList b.hexChars

/-- Read pairs of hexadecimal digits. -/
def ofHexChars? : List Char → Option Bytes
  | [] => some []
  | high :: low :: rest => do
    let h ← Text.hexValue? high
    let l ← Text.hexValue? low
    let bytes ← ofHexChars? rest
    return UInt8.ofNat (16 * h + l) :: bytes
  | [_] => none

/-- Read hexadecimal text. -/
def ofHex? (s : String) : Option Bytes := ofHexChars? s.toList

end Bytes
end Handoff
