import Handoff.Bytes.Hex
import Handoff.Text.Split

/-!
# Base64 text

Three bytes are written as four characters of the standard alphabet, and the last group is padded with
equals signs. Reading accepts exactly the padded form whose unused bits are zero, with white space
around the whole text.
-/

namespace Handoff.Base64

/-- The alphabet, in the order of its values. -/
def alphabet : List Char :=
  "ABCDEFGHIJKLMNOPQRSTUVWXYZabcdefghijklmnopqrstuvwxyz0123456789+/".toList

/-- The character of a six-bit value. -/
def symbol (n : Nat) : Char := alphabet.getD n '='

/-- The six-bit value of a character. -/
def value? (c : Char) : Option Nat :=
  if 'A' ≤ c ∧ c ≤ 'Z' then some (c.toNat - 'A'.toNat)
  else if 'a' ≤ c ∧ c ≤ 'z' then some (c.toNat - 'a'.toNat + 26)
  else if '0' ≤ c ∧ c ≤ '9' then some (c.toNat - '0'.toNat + 52)
  else if c = '+' then some 62
  else if c = '/' then some 63
  else none

/-- The written form of a byte string. -/
def encodeChars : Bytes → List Char
  | [] => []
  | [a] => [symbol (a.toNat / 4), symbol (a.toNat % 4 * 16), '=', '=']
  | [a, b] =>
    [symbol (a.toNat / 4), symbol (a.toNat % 4 * 16 + b.toNat / 16), symbol (b.toNat % 16 * 4), '=']
  | a :: b :: c :: rest =>
    symbol (a.toNat / 4) :: symbol (a.toNat % 4 * 16 + b.toNat / 16)
      :: symbol (b.toNat % 16 * 4 + c.toNat / 64) :: symbol (c.toNat % 64) :: encodeChars rest

/-- The base64 text of a byte string. -/
def encode (b : Bytes) : String := String.ofList (encodeChars b)

/-- The byte of a padded group of two characters. -/
def decodeOne? (c₁ c₂ : Char) : Option Bytes := do
  let v₁ ← value? c₁
  let v₂ ← value? c₂
  if v₂ % 16 = 0 then some [UInt8.ofNat (v₁ * 4 + v₂ / 16)] else none

/-- The bytes of a padded group of three characters. -/
def decodeTwo? (c₁ c₂ c₃ : Char) : Option Bytes := do
  let v₁ ← value? c₁
  let v₂ ← value? c₂
  let v₃ ← value? c₃
  if v₃ % 4 = 0 then
    some [UInt8.ofNat (v₁ * 4 + v₂ / 16), UInt8.ofNat (v₂ % 16 * 16 + v₃ / 4)]
  else none

/-- The bytes of a full group. -/
def decodeThree? (c₁ c₂ c₃ c₄ : Char) : Option Bytes := do
  let v₁ ← value? c₁
  let v₂ ← value? c₂
  let v₃ ← value? c₃
  let v₄ ← value? c₄
  return [UInt8.ofNat (v₁ * 4 + v₂ / 16), UInt8.ofNat (v₂ % 16 * 16 + v₃ / 4),
    UInt8.ofNat (v₃ % 4 * 64 + v₄)]

/-- Read groups of four characters; only the last may be padded. -/
def decodeChars? : List Char → Option Bytes
  | [] => some []
  | [c₁, c₂, '=', '='] => decodeOne? c₁ c₂
  | [c₁, c₂, c₃, '='] => decodeTwo? c₁ c₂ c₃
  | c₁ :: c₂ :: c₃ :: c₄ :: rest => do
    let group ← decodeThree? c₁ c₂ c₃ c₄
    let bytes ← decodeChars? rest
    return group ++ bytes
  | _ => none

/-- Read base64 text, ignoring white space around it. -/
def decode? (s : String) : Option Bytes := decodeChars? (Text.trim s.toList)

end Handoff.Base64
