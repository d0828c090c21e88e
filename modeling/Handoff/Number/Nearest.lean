import Handoff.Number.Scaled

/-!
# Reading decimals to the nearest number

A decimal numeral denotes a rational number, and is read as the finite number nearest to it. A numeral
whose digits begin far above or far below the finite range is decided by their place alone, so that no
power of ten is larger than the numeral is long.
-/

namespace Handoff.Numeral

/-- The place of the first digit that is not zero, counted from the point to the left. -/
def leadingPlace (n : Numeral) : Int :=
  let digits := (n.whole ++ n.fraction).dropWhile (· = '0')
  n.exponent + (digits.length : Int) - (n.fraction.length : Int)

/-- No finite number has a digit to the left of this place. -/
def highestPlace : Int := 310

/-- A number whose first digit is to the right of this place rounds to zero. -/
def lowestPlace : Int := -330

/-- The finite number nearest to a numeral. -/
def nearest? (n : Numeral) : Option Binary64 :=
  let significand := digitsValue (n.whole ++ n.fraction)
  let exponent := n.exponent - (n.fraction.length : Int)
  if significand = 0 ∨ n.leadingPlace < lowestPlace then
    some { Binary64.zero with negative := n.negative }
  else if highestPlace < n.leadingPlace then none
  else if 0 ≤ exponent then Binary64.ofRatio? n.negative (significand * Nat.pow 10 exponent.toNat) 1
  else Binary64.ofRatio? n.negative significand (Nat.pow 10 exponent.natAbs)

end Handoff.Numeral
