/-!
# Rounding quotients

A quotient of natural numbers is rounded to the nearest whole number. A tie goes to the even neighbour
in `roundEven` and away from zero in `roundAway`.
-/

namespace Handoff

/-- `num / den` rounded to nearest, a tie to the even neighbour. -/
def roundEven (num den : Nat) : Nat :=
  let quotient := num / den
  let rest := num % den
  if 2 * rest < den then quotient
  else if den < 2 * rest then quotient + 1
  else quotient + quotient % 2

/-- `num / den` rounded to nearest, a tie upwards. -/
def roundAway (num den : Nat) : Nat :=
  (2 * num + den) / (2 * den)

/-- Rounding to even stays within half a unit from below. -/
theorem roundEven_lower (num : Nat) {den : Nat} (h : 0 < den) :
    2 * num ≤ (2 * roundEven num den + 1) * den := by
  have hd := Nat.div_add_mod num den
  have hr := Nat.mod_lt num h
  simp only [roundEven]
  have key : ∀ q r : Nat, den * q + r = num → r < den →
      ∀ e, q + e ≤ q + 1 → (e = 0 → 2 * r ≤ den) → 2 * num ≤ (2 * (q + e) + 1) * den := by
    intro q r hq hr e he h0
    rcases Nat.eq_zero_or_pos e with rfl | hp
    · have := h0 rfl
      calc 2 * num = 2 * (den * q) + 2 * r := by omega
        _ ≤ 2 * (den * q) + den := by omega
        _ = (2 * (q + 0) + 1) * den := by
          rw [Nat.add_zero q, Nat.add_mul, Nat.one_mul, Nat.mul_assoc, Nat.mul_comm q den]
    · have he1 : e = 1 := by omega
      subst he1
      calc 2 * num = 2 * (den * q) + 2 * r := by omega
        _ ≤ 2 * (den * q) + 3 * den := by omega
        _ = (2 * (q + 1) + 1) * den := by
          rw [Nat.mul_add, Nat.add_assoc, Nat.add_mul, Nat.mul_assoc, Nat.mul_comm q den]
  split
  · next hlt => exact key _ _ hd hr 0 (by omega) (fun _ => by omega)
  · split
    · exact key _ _ hd hr 1 (by omega) (by omega)
    · exact key _ _ hd hr _ (by omega) (fun _ => by omega)

/-- Rounding to even stays within half a unit from above. -/
theorem roundEven_upper (num : Nat) {den : Nat} (h : 0 < den) :
    2 * roundEven num den * den ≤ 2 * num + den := by
  have hd := Nat.div_add_mod num den
  have hr := Nat.mod_lt num h
  simp only [roundEven]
  have key : ∀ q r : Nat, den * q + r = num →
      ∀ e, e ≤ 1 → (e = 1 → den ≤ 2 * r) → 2 * (q + e) * den ≤ 2 * num + den := by
    intro q r hq e he h1
    rcases Nat.eq_zero_or_pos e with rfl | hp
    · calc 2 * (q + 0) * den = 2 * (den * q) := by
            rw [Nat.add_zero q, Nat.mul_assoc, Nat.mul_comm q den]
        _ ≤ 2 * num + den := by omega
    · have he1 : e = 1 := by omega
      subst he1
      have := h1 rfl
      calc 2 * (q + 1) * den = 2 * (den * q) + 2 * den := by
            rw [Nat.mul_add, Nat.add_mul, Nat.mul_assoc, Nat.mul_comm q den]
        _ ≤ 2 * num + den := by omega
  split
  · exact key _ _ hd 0 (by omega) (by omega)
  · split
    · exact key _ _ hd 1 (by omega) (by omega)
    · exact key _ _ hd _ (by omega) (by omega)

/-- A whole quotient is not changed by rounding. -/
theorem roundEven_mul (n : Nat) {den : Nat} (h : 0 < den) : roundEven (n * den) den = n := by
  simp [roundEven, Nat.mul_div_cancel _ h, h]

end Handoff
