import Handoff.Number.Rounding

/-!
# Finite binary64 numbers

A finite number of the binary64 format is a sign and the rank of its magnitude among all finite
magnitudes in ascending order. Rank zero is zero, and the order of ranks is the order of magnitudes.
Every finite magnitude is a whole multiple of `2 ^ -1074`; `units` counts these multiples, so all
questions about values are questions about natural numbers. Every operation rounds its exact result
once, to nearest with ties to even, and has no result where the format has no finite one.

Infinities and what is no number are left out. Documents hold finite numbers only: they are read as JSON, which has
no others.
-/

namespace Handoff

/-- How many finite magnitudes the format has. -/
def binary64Magnitudes : Nat := 2047 * Nat.pow 2 52

/-- A finite binary64 number: what a document can hold once it was read. -/
structure Binary64 where
  negative : Bool
  rank : Nat
  rank_lt : rank < binary64Magnitudes
  deriving DecidableEq

namespace Binary64

/-- Positive zero. -/
def zero : Binary64 := ⟨false, 0, by decide⟩

/-- The number one: the first rank with exponent zero. -/
def one : Binary64 := ⟨false, 1023 * Nat.pow 2 52, by decide⟩

instance : Inhabited Binary64 := ⟨zero⟩

/-- The power of two by which the significand is scaled, in units. -/
def shift (x : Binary64) : Nat := x.rank / Nat.pow 2 52 - 1

/-- The significand: below `2 ^ 53`, and at least `2 ^ 52` unless the shift is zero. -/
def significand (x : Binary64) : Nat := x.rank - x.shift * Nat.pow 2 52

/-- How many multiples of `2 ^ -1074` the magnitude holds. -/
def units (x : Binary64) : Nat := x.significand * Nat.pow 2 x.shift

/-- The number of units in one. -/
def unitsPerOne : Nat := Nat.pow 2 1074

/-- Whether a number is a zero of either sign. -/
def isZero (x : Binary64) : Bool := x.rank == 0

/-- The signed rank, which orders numbers as their values do; both zeros have key zero. -/
def key (x : Binary64) : Int := if x.negative then -(x.rank : Int) else x.rank

/-- Numerical equality: both zeros are equal. -/
def same (x y : Binary64) : Bool := x.key == y.key

/-- Numerical order. -/
def less (x y : Binary64) : Bool := x.key < y.key

/-- The smaller of two numbers. -/
def min (x y : Binary64) : Binary64 := if y.less x then y else x

/-- The larger of two numbers. -/
def max (x y : Binary64) : Binary64 := if x.less y then y else x

/-- The finite number nearest to the quotient `num / den`, ties to the even significand. -/
def ofRatio? (negative : Bool) (num den : Nat) : Option Binary64 :=
  let scaled := num * unitsPerOne
  let shift := (scaled / den).log2 - 52
  let rank := shift * Nat.pow 2 52 + roundEven scaled (den * Nat.pow 2 shift)
  if h : rank < binary64Magnitudes then some ⟨negative, rank, h⟩ else none

/-- The number nearest to a natural number. -/
def ofNat? (n : Nat) : Option Binary64 := ofRatio? false n 1

/-- The number nearest to an integer. -/
def ofInt? (i : Int) : Option Binary64 := ofRatio? (i < 0) i.natAbs 1

/-- The product of two numbers. -/
def mul? (x y : Binary64) : Option Binary64 :=
  ofRatio? (x.negative != y.negative) (x.units * y.units) (unitsPerOne * unitsPerOne)

/-- The quotient of two numbers; there is none by zero. -/
def div? (x y : Binary64) : Option Binary64 :=
  if y.isZero then none else ofRatio? (x.negative != y.negative) x.units y.units

/-- Half of a number. -/
def half (x : Binary64) : Binary64 :=
  (ofRatio? x.negative x.units (2 * unitsPerOne)).getD zero

/-- A number between zero and one times `factor`, rounded as a number and then to a whole one, ties
away from zero. Numbers outside that interval count as its nearer end. -/
def portion (x : Binary64) (factor : Nat) : Nat :=
  if x.key ≤ 0 then 0
  else if one.key ≤ x.key then factor
  else
    match ofRatio? false (x.units * factor) unitsPerOne with
    | some product => roundAway product.units unitsPerOne
    | none => factor

/-- Numbers with the same sign and rank are equal. -/
theorem ext {x y : Binary64} (hn : x.negative = y.negative) (hr : x.rank = y.rank) : x = y := by
  cases x
  cases y
  simp_all

/-- Numerical equality is reflexive. -/
theorem same_refl (x : Binary64) : x.same x = true := by simp [same]

/-- Numerical equality is symmetric. -/
theorem same_comm (x y : Binary64) : x.same y = y.same x := by
  unfold same
  exact Bool.beq_comm

end Binary64
end Handoff
