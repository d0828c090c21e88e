import Handoff.Number.Binary64

/-!
# Reading decimals by scaling

A decimal numeral is read through its leading digits: as many as fit in 64 bits make the significand,
and the digits after them only count towards the exponent. The significand is rounded to a number and
multiplied or divided once by a rounded power of ten. Exponents below `-308` divide by `10 ^ 308`
first. A numeral that leaves the finite range upwards has no value.
-/

namespace Handoff

/-- A numeral cut into its parts; the parts are decimal digits. -/
structure Numeral where
  negative : Bool
  whole : List Char
  fraction : List Char
  exponent : Int

/-- The value of a decimal digit. -/
def digitValue (c : Char) : Nat := c.toNat - '0'.toNat

/-- The value of a list of decimal digits. -/
def digitsValue (s : List Char) : Nat :=
  s.foldl (fun n c => 10 * n + digitValue c) 0

/-- Significands stay below this bound. -/
def significandLimit : Nat := Nat.pow 2 64

/-- Extend a significand by digits while it fits, and count the digits left out. -/
def takeDigits (significand : Nat) : List Char → Nat × Nat
  | [] => (significand, 0)
  | c :: rest =>
    let next := 10 * significand + digitValue c
    if next < significandLimit then takeDigits next rest else (significand, (c :: rest).length)

namespace Binary64

/-- The number nearest to `10 ^ k`. -/
def powerOfTen (k : Nat) : Binary64 := (ofNat? (Nat.pow 10 k)).getD zero

/-- Scale a number by a power of ten. An exponent below `-308` takes a first division by `10 ^ 308`,
and `fuel` bounds how often; a number that has become zero stays zero. -/
def scale? : Nat → Binary64 → Int → Option Binary64
  | 0, x, _ => some x
  | fuel + 1, x, exponent =>
    if exponent.natAbs ≤ 308 then
      if 0 ≤ exponent then mul? x (powerOfTen exponent.toNat)
      else div? x (powerOfTen exponent.natAbs)
    else if x.isZero then some x
    else if 0 ≤ exponent then none
    else
      match div? x (powerOfTen 308) with
      | some y => scale? fuel y (exponent + 308)
      | none => none

end Binary64

namespace Numeral

/-- The number a numeral is read as. -/
def value? (n : Numeral) : Option Binary64 :=
  let (whole, dropped) := takeDigits 0 n.whole
  let (significand, left) := takeDigits whole n.fraction
  let exponent := n.exponent + (dropped : Int) - ((n.fraction.length - left : Nat) : Int)
  let magnitude := (Binary64.ofNat? significand).bind (Binary64.scale? 4 · exponent)
  magnitude.map (fun x => { x with negative := n.negative })

end Numeral
end Handoff
