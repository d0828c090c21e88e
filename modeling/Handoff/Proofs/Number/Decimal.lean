import Handoff.Proofs.Number.Hundredths
import Mathlib.Algebra.Order.Ring.Rat
import Mathlib.Algebra.Ring.Int.Parity
import Mathlib.Data.Rat.Cast.Order
import Mathlib.Tactic.FieldSimp
import Mathlib.Tactic.Linarith
import Mathlib.Tactic.LinearCombination
import Mathlib.Tactic.Ring

/-!
# Correct rounding

A finite number denotes an exact rational number. Its text in style sheets is the canonical decimal numeral of
that rational number rounded to hundredths, a tie to the even hundredth. A numeral is canonical if no zero ends
its decimal places and no sign stands before zero, so that every value has one numeral at most.
-/

namespace Handoff

/-! ## Nearest whole numbers -/

/-- The whole number nearest to a rational number, the even one in a tie. -/
def NearestEven (q : ℚ) (n : ℤ) : Prop :=
  |q - n| ≤ 1 / 2 ∧ (|q - n| = 1 / 2 → Even n)

namespace NearestEven

variable {q : ℚ} {m n : ℤ}

/-- The nearest whole numbers of opposite numbers are opposite. -/
theorem neg (nearest : NearestEven q n) : NearestEven (-q) (-n) := by
  have distance : |-q - ((-n : ℤ) : ℚ)| = |q - n| := by
    rw [Int.cast_neg, ← neg_sub', abs_neg]
  refine ⟨distance ▸ nearest.1, fun tie => even_neg.2 (nearest.2 ?_)⟩
  rwa [distance] at tie

/-- The nearest whole number takes the sign of the number. -/
theorem signed (nearest : NearestEven q n) (negative : Bool) :
    NearestEven ((if negative then -1 else 1) * q) (if negative then -n else n) := by
  cases negative with
  | true => simpa using nearest.neg
  | false => simpa using nearest

private theorem le_of_nearestEven (first : NearestEven q m) (second : NearestEven q n) : n ≤ m := by
  by_contra above
  have next : (m : ℚ) + 1 ≤ n := by exact_mod_cast not_le.1 above
  have low := (abs_le.1 first.1).2
  have high := (abs_le.1 second.1).1
  -- Both are half away from the number, on different sides, so both are even.
  have adjacent : n = m + 1 := by
    have : (n : ℚ) = m + 1 := by linarith
    exact_mod_cast this
  have evenLow : Even m := first.2 (by rw [abs_of_nonneg (by linarith)]; linarith)
  have evenHigh : Even n := second.2 (by rw [abs_of_nonpos (by linarith)]; linarith)
  rw [adjacent, Int.even_add_one] at evenHigh
  exact evenHigh evenLow

/-- There is one nearest whole number only. -/
theorem unique (first : NearestEven q m) (second : NearestEven q n) : m = n :=
  le_antisymm (le_of_nearestEven second first) (le_of_nearestEven first second)

end NearestEven

private theorem even_roundEven {num den : Nat} (some : 0 < den)
    (tie : 2 * num = (2 * roundEven num den + 1) * den ∨ 2 * roundEven num den * den = 2 * num + den) :
    Even (roundEven num den) := by
  have parts := Nat.div_add_mod num den
  have small := Nat.mod_lt num some
  simp only [roundEven] at tie ⊢
  generalize num / den = quotient at *
  generalize num % den = rest at *
  have scaled : 2 * num = 2 * quotient * den + 2 * rest := by rw [← parts]; ring
  rw [scaled] at tie
  by_cases below : 2 * rest < den
  · rw [if_pos below, Nat.add_mul, Nat.one_mul] at tie
    omega
  · by_cases above : den < 2 * rest
    · rw [if_neg below, if_pos above, Nat.mul_add, Nat.add_mul, Nat.add_mul] at tie
      omega
    · rw [if_neg below, if_neg above, Nat.even_iff]
      omega

/-- Rounding a quotient to even gives the nearest whole number. -/
theorem nearestEven_roundEven (num : Nat) {den : Nat} (some : 0 < den) :
    NearestEven (num / den) (roundEven num den) := by
  have pos : (0 : ℚ) < den := by exact_mod_cast some
  have lower : (2 * num : ℚ) ≤ (2 * roundEven num den + 1) * den := by exact_mod_cast roundEven_lower num some
  have upper : (2 * roundEven num den * den : ℚ) ≤ 2 * num + den := by exact_mod_cast roundEven_upper num some
  have exact : (num / den : ℚ) * den = num := div_mul_cancel₀ _ pos.ne'
  have even := @even_roundEven num den some
  -- Both claims are about the products with the denominator, which the bounds and `exact` relate.
  generalize roundEven num den = rounded at *
  generalize (num / den : ℚ) = quotient at *
  constructor
  · rw [Int.cast_natCast, abs_le]
    constructor <;> nlinarith
  · intro tie
    rw [Int.cast_natCast] at tie
    rw [Int.even_coe_nat]
    apply even
    rcases (abs_eq (by norm_num)).1 tie with above | below
    · left
      have : (2 * num : ℚ) = (2 * rounded + 1) * den := by rw [← exact]; linear_combination 2 * den * above
      exact_mod_cast this
    · right
      have : (2 * rounded * den : ℚ) = 2 * num + den := by rw [← exact]; linear_combination (-2) * den * below
      exact_mod_cast this

/-! ## Canonical numerals -/

/-- A canonical numeral: at most two decimal places, no zero at their end, no sign before zero and no exponent. -/
@[ext]
structure PlainDecimal where
  negative : Bool
  whole : Nat
  places : List (Fin 10)
  few : places.length ≤ 2
  trimmed : places.getLast? ≠ some 0
  signed : negative = true → whole ≠ 0 ∨ places ≠ []

namespace PlainDecimal

/-- The characters of a numeral: a sign, the whole part and, after a point, the decimal places. -/
def text (d : PlainDecimal) : String :=
  (if d.negative then "-" else "") ++ toString d.whole ++
    if d.places = [] then "" else "." ++ String.ofList (d.places.map (Nat.digitChar ·.val))

/-- The value of decimal places, from the tenths on. -/
def fraction (places : List (Fin 10)) : ℚ := places.foldr (fun digit rest => (digit.val + rest) / 10) 0

/-- The value of a numeral. -/
def value (d : PlainDecimal) : ℚ := (if d.negative then -1 else 1) * (d.whole + fraction d.places)

/-- Whether a numeral is a number rounded to hundredths, a tie to the even hundredth. -/
def Rounds (d : PlainDecimal) (q : ℚ) : Prop := ∃ n : ℤ, NearestEven (100 * q) n ∧ d.value = n / 100

/-- The decimal places of a count of hundredths. -/
def placesOf (n : Nat) : List (Fin 10) :=
  if n % 100 = 0 then []
  else if n % 10 = 0 then [⟨n % 100 / 10, by omega⟩]
  else [⟨n % 100 / 10, by omega⟩, ⟨n % 10, by omega⟩]

/-- The numeral of a signed count of hundredths. -/
def ofHundredths (negative : Bool) (n : Nat) : PlainDecimal where
  negative := negative && n ≠ 0
  whole := n / 100
  places := placesOf n
  few := by unfold placesOf; split_ifs <;> simp
  trimmed := by
    unfold placesOf
    split_ifs
    · simp
    · simp [Fin.ext_iff]; omega
    · simpa [Fin.ext_iff]
  signed := by
    intro sign
    unfold placesOf
    split_ifs
    · left
      simp at sign
      omega
    all_goals simp

/-- A numeral of hundredths has the text of its count. -/
theorem text_ofHundredths (negative : Bool) (n : Nat) : (ofHundredths negative n).text = signedText negative n := by
  have digits : (toString (n / 100) ++ if placesOf n = [] then "" else
      "." ++ String.ofList ((placesOf n).map (Nat.digitChar ·.val))) = hundredthsText n := by
    rw [← String.toList_inj, toList_hundredthsText]
    unfold placesOf
    split_ifs <;> simp_all
  have sign : (ofHundredths negative n).text =
      (if negative && n ≠ 0 then "-" else "") ++ hundredthsText n := by
    rw [← digits, ← String.append_assoc]
    rfl
  rw [sign, signedText]
  split <;> simp

private theorem fraction_placesOf (n : Nat) : fraction (placesOf n) = (n % 100 : ℕ) / 100 := by
  unfold placesOf
  split_ifs with hundred ten
  · simp [fraction, hundred]
  · have tenths : n % 100 = 10 * (n % 100 / 10) := by omega
    have scaled : ((n % 100 : ℕ) : ℚ) = 10 * (n % 100 / 10 : ℕ) := by exact_mod_cast tenths
    simp only [fraction, List.foldr]
    rw [scaled]
    ring
  · have parts : n % 100 = 10 * (n % 100 / 10) + n % 10 := by omega
    have scaled : ((n % 100 : ℕ) : ℚ) = 10 * (n % 100 / 10 : ℕ) + (n % 10 : ℕ) := by exact_mod_cast parts
    simp only [fraction, List.foldr]
    rw [scaled]
    ring

/-- A numeral of hundredths has the value of its count. -/
theorem value_ofHundredths (negative : Bool) (n : Nat) :
    (ofHundredths negative n).value = (if negative then -1 else 1) * (n / 100) := by
  have parts : (n : ℚ) = 100 * (n / 100 : ℕ) + (n % 100 : ℕ) := by exact_mod_cast (Nat.div_add_mod n 100).symm
  have magnitude : ((n / 100 : ℕ) : ℚ) + fraction (placesOf n) = n / 100 := by
    rw [fraction_placesOf]
    linear_combination (-1 / 100) * parts
  simp only [value, ofHundredths, magnitude]
  by_cases none : n = 0
  · simp [none]
  · simp [none]

private theorem placesOf_eq (whole : Nat) {places : List (Fin 10)} (few : places.length ≤ 2)
    (trimmed : places.getLast? ≠ some 0) :
    ∃ k < 100, placesOf (whole * 100 + k) = places ∧ (k = 0 → places = []) := by
  match places, few with
  | [], _ => exact ⟨0, by omega, by simp [placesOf], fun _ => rfl⟩
  | [tenths], _ =>
    have some : tenths.val ≠ 0 := fun h => trimmed (by simp [Fin.ext_iff, h])
    refine ⟨10 * tenths.val, by omega, ?_, by omega⟩
    rw [placesOf, if_neg (by omega), if_pos (by omega)]
    congr 1
    ext
    simp only
    omega
  | [tenths, ones], _ =>
    have some : ones.val ≠ 0 := fun h => trimmed (by simp [Fin.ext_iff, h])
    refine ⟨10 * tenths.val + ones.val, by omega, ?_, by omega⟩
    rw [placesOf, if_neg (by omega), if_neg (by omega)]
    congr 1
    · ext
      simp only
      omega
    · congr 1
      ext
      simp only
      omega

/-- Every numeral counts hundredths. -/
theorem exists_eq_ofHundredths (d : PlainDecimal) : ∃ n, d = ofHundredths d.negative n := by
  obtain ⟨k, small, places, none⟩ := placesOf_eq d.whole d.few d.trimmed
  refine ⟨d.whole * 100 + k, PlainDecimal.ext ?_ ?_ places.symm⟩
  · cases sign : d.negative with
    | false => simp [ofHundredths]
    | true =>
      have some : d.whole * 100 + k ≠ 0 := fun h =>
        (d.signed sign).elim (fun whole => whole (by omega)) fun places => places (none (by omega))
      simp only [ofHundredths, decide_eq_true some, Bool.and_true]
  · simp only [ofHundredths]
    omega

/-- Numerals with one value are equal. -/
theorem value_injective : Function.Injective value := by
  intro d e same
  obtain ⟨m, hd⟩ := d.exists_eq_ofHundredths
  obtain ⟨n, he⟩ := e.exists_eq_ofHundredths
  rw [hd, he, value_ofHundredths, value_ofHundredths] at same
  rw [hd, he]
  by_cases signs : d.negative = e.negative
  · have counts : m = n := by
      rw [signs] at same
      have : (m : ℚ) = n := by
        cases sign : e.negative <;> simp only [sign] at same <;> simpa using same
      exact_mod_cast this
    rw [signs, counts]
  · -- Opposite values are equal only if both are zero, which has no sign.
    have none : m = 0 ∧ n = 0 := by
      have total : (m : ℚ) + n = 0 := by
        revert signs same
        cases d.negative <;> cases e.negative <;> simp <;> intro same <;> linarith
      have : m + n = 0 := by exact_mod_cast total
      omega
    rw [none.1, none.2]
    ext <;> simp [ofHundredths]

/-- There is one numeral only to which a number is rounded. -/
theorem rounds_unique {d e : PlainDecimal} {q : ℚ} (first : d.Rounds q) (second : e.Rounds q) : d = e := by
  obtain ⟨m, nearestM, valueD⟩ := first
  obtain ⟨n, nearestN, valueE⟩ := second
  exact value_injective (by rw [valueD, valueE, nearestM.unique nearestN])

/-- The numeral of a nearest count of hundredths is the number rounded to hundredths. -/
theorem rounds_ofHundredths {negative : Bool} {n : Nat} {q : ℚ}
    (nearest : NearestEven (100 * q) (if negative then -(n : ℤ) else n)) : (ofHundredths negative n).Rounds q := by
  refine ⟨_, nearest, ?_⟩
  rw [value_ofHundredths]
  cases negative <;> simp [neg_div]

end PlainDecimal

namespace Binary64

/-- The rational number that a number denotes. -/
def value (x : Binary64) : ℚ := (if x.negative then -1 else 1) * (x.units / unitsPerOne)

/-- The count of hundredths with its sign is the nearest whole number to the hundredfold value. -/
theorem nearestEven_hundredths (x : Binary64) :
    NearestEven (100 * x.value) (if x.negative then -(x.hundredths : ℤ) else x.hundredths) := by
  have nearest := nearestEven_roundEven (x.units * 100) unitsPerOne_pos
  rw [Nat.cast_mul, mul_comm, Nat.cast_ofNat, mul_div_assoc] at nearest
  rw [value, mul_left_comm]
  exact nearest.signed x.negative

/-- A number is written as the only canonical numeral to which it is rounded, and so without a sign if it rounds
to zero. What writes whole numbers as integers agrees with what rounds and trims. -/
theorem styleText_rounds (x : Binary64) :
    (∃ d : PlainDecimal, x.styleText = d.text ∧ ∀ e : PlainDecimal, e.Rounds x.value ↔ e = d) ∧
      (NearestEven (100 * x.value) 0 → x.styleText = "0") ∧
      (x.isWhole = true → toString x.truncated = x.roundedText) := by
  have rounded := PlainDecimal.rounds_ofHundredths x.nearestEven_hundredths
  refine ⟨⟨.ofHundredths x.negative x.hundredths, ?_, fun e => ⟨fun rounds => ?_, ?_⟩⟩, ?_, ?_⟩
  · rw [styleText_eq, PlainDecimal.text_ofHundredths]
  · exact PlainDecimal.rounds_unique rounds rounded
  · rintro rfl
    exact rounded
  · intro zero
    have none : x.hundredths = 0 := by
      have same := x.nearestEven_hundredths.unique zero
      split at same <;> omega
    exact styleText_of_hundredths_eq_zero none
  · intro whole
    rw [toString_truncated whole, roundedText_eq]

/-- An eighth is a tie, and goes to the even hundredth. -/
example : (ofRatio? true 1 8).map styleText = some "-0.12" := by decide +kernel

end Binary64
end Handoff
