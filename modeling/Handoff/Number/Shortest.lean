import Handoff.Number.Binary64

/-!
# Shortest decimals

The shortest decimal of a number has the fewest digits among the decimals that lie in the interval of
values rounding to that number, and is the nearest of those. The interval reaches half way to the two
neighbouring numbers, and its ends belong to it when the significand is even. For one, two and more
digits the two decimals of that length around the value are tested in exact arithmetic.
-/

namespace Handoff

/-- The value `digits * 10 ^ exponent`. -/
structure Decimal where
  digits : Nat
  exponent : Int
  deriving Repr, DecidableEq

namespace Decimal

/-- The text of the digits. -/
def text (d : Decimal) : String := toString d.digits

/-- The exponent of the first digit. -/
def leading (d : Decimal) : Int := d.exponent + (d.text.length - 1 : Nat)

/-- The same value without trailing zero digits; `fuel` bounds how many are dropped. -/
def strip : Nat → Decimal → Decimal
  | 0, d => d
  | fuel + 1, d =>
    if d.digits ≠ 0 ∧ d.digits % 10 = 0 then strip fuel ⟨d.digits / 10, d.exponent + 1⟩ else d

end Decimal

namespace Binary64

/-- The interval of values that round to a number, in quarters of its last place. -/
structure Neighbourhood where
  lower : Nat
  upper : Nat
  closed : Bool

/-- The rounding interval of a positive number in quarter places: half a place to each side, and a
quarter below a power of two, where the places get finer. -/
def neighbourhood (x : Binary64) : Neighbourhood where
  lower := if x.significand = Nat.pow 2 52 ∧ 0 < x.shift then 4 * x.significand - 1
    else 4 * x.significand - 2
  upper := 4 * x.significand + 2
  closed := x.significand % 2 == 0

/-- The exponent of the leading decimal digit of the positive quotient `num / den`. -/
def leadingExponent (num den : Nat) : Int :=
  if den ≤ num then ((toString (num / den)).length - 1 : Nat)
  else
    let places := (toString (den / num)).length - 1
    if num * Nat.pow 10 places = den then -(places : Int) else -(places + 1 : Int)

/-- The multiple of `10 ^ exponent` nearest to a positive number among its two neighbours that lie in
the rounding interval, if any does. -/
def onGrid? (x : Binary64) (exponent : Int) : Option Decimal :=
  let scale := Nat.pow 2 x.shift * Nat.pow 10 (-exponent).toNat
  let unit := 4 * unitsPerOne * Nat.pow 10 exponent.toNat
  let around := x.neighbourhood
  let value := 4 * x.significand * scale
  let inside := fun n =>
    let p := n * unit
    if around.closed then around.lower * scale ≤ p && p ≤ around.upper * scale
    else around.lower * scale < p && p < around.upper * scale
  let low := value / unit
  let high := low + 1
  let lowIn := 0 < low && inside low
  let highIn := inside high
  if lowIn && highIn then
    let below := value - low * unit
    let above := high * unit - value
    let pick := if below < above then low else if above < below then high else low + low % 2
    some ⟨pick, exponent⟩
  else if lowIn then some ⟨low, exponent⟩
  else if highIn then some ⟨high, exponent⟩
  else none

/-- Search the grids from `exponent` downwards, at most `fuel` of them. -/
def searchGrids (x : Binary64) : Nat → Int → Option Decimal
  | 0, _ => none
  | fuel + 1, exponent =>
    match onGrid? x exponent with
    | some d => some d
    | none => searchGrids x fuel (exponent - 1)

/-- The shortest decimal of a number's magnitude. -/
def shortest (x : Binary64) : Decimal :=
  if x.isZero then ⟨0, 0⟩
  else
    match searchGrids x 17 (leadingExponent x.units unitsPerOne) with
    | some d => Decimal.strip 17 d
    | none => ⟨0, 0⟩

end Binary64
end Handoff
