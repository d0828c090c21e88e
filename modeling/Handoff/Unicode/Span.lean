/-!
# Stepped spans of code points

A character property is stored as a list of spans. A span holds every `step`-th code point from
`first` to `last`; step one is an unbroken range, and step two fits the alphabets that alternate
capital and small letters. Membership is the only question asked of a table.
-/

namespace Handoff.Unicode

/-- The code points `first`, `first + step`, … up to `last`. -/
structure Span where
  first : Nat
  last : Nat
  step : Nat
  deriving Repr, DecidableEq

namespace Span

/-- Whether code point `n` lies on the span. -/
def contains (s : Span) (n : Nat) : Bool :=
  s.first ≤ n && n ≤ s.last && (n - s.first) % s.step == 0

/-- Membership in a span is lying between its ends at a whole number of steps. -/
theorem contains_iff (s : Span) (n : Nat) :
    s.contains n = true ↔ s.first ≤ n ∧ n ≤ s.last ∧ (n - s.first) % s.step = 0 := by
  simp [contains, and_assoc]

end Span

/-- Whether some span of a table holds code point `n`. -/
def inTable (table : List Span) (n : Nat) : Bool :=
  table.any (·.contains n)

end Handoff.Unicode
