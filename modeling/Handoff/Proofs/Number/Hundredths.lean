import Handoff.Number.Hundredths
import Mathlib.Tactic.SplitIfs

/-!
# Texts of hundredths

A number is written as its count of hundredths, whichever way it takes. Trimming the zeros of the two decimal
places leaves the digits of the whole part alone, since the point stands between, and the sign goes only where
nothing but a zero is left of a number. The count of a whole number is a multiple of a hundred, so it is written
as an integer either way.
-/

namespace Handoff

/-- The text of a signed count of hundredths. Zero has no sign. -/
def signedText (negative : Bool) (n : Nat) : String :=
  if negative && n ≠ 0 then "-" ++ hundredthsText n else hundredthsText n

/-! ## Trimming -/

private theorem digitChar_eq_zero_iff : ∀ k < 10, Nat.digitChar k = '0' ↔ k = 0 := by decide

private theorem digitChar_ne_point : ∀ k < 10, Nat.digitChar k ≠ '.' := by decide

private theorem toDigits_of_lt {n : Nat} (h : n < 10) : Nat.toDigits 10 n = [Nat.digitChar n] :=
  Nat.toDigits_of_lt_base h

private theorem trimZeros_concat (front : List Char) {c : Char} (zero : c ≠ '0') (point : c ≠ '.') :
    trimZeros (front ++ [c]) = front ++ [c] := by
  simp [trimZeros, zero, point]

private theorem trimZeros_zero (front : List Char) : trimZeros (front ++ ['0']) = trimZeros front := by
  simp [trimZeros]

private theorem trimZeros_point {front : List Char} (last : ∀ c ∈ front.getLast?, c ≠ '.') :
    trimZeros (front ++ ['.']) = front := by
  rw [List.getLast?_eq_head?_reverse] at last
  rw [trimZeros, List.reverse_append, List.reverse_singleton, List.singleton_append,
    List.dropWhile_cons_of_neg (by decide), List.dropWhile_cons_of_pos (by decide)]
  cases back : front.reverse with
  | nil => simpa using back.symm
  | cons c rest =>
    have other : c ≠ '.' := last c (by rw [back]; rfl)
    rw [List.dropWhile_cons_of_neg (by simpa using other), ← back, List.reverse_reverse]

private theorem last_toDigits (front : List Char) (n : Nat) :
    ∀ c ∈ (front ++ Nat.toDigits 10 n).getLast?, c ≠ '.' := by
  rintro c last rfl
  rw [List.getLast?_append] at last
  cases digits : (Nat.toDigits 10 n).getLast? with
  | none => exact Nat.toDigits_ne_nil (List.getLast?_eq_none_iff.1 digits)
  | some d =>
    rw [digits] at last
    obtain rfl : d = '.' := by simpa using last
    have digit := Nat.isDigit_of_mem_toDigits (by decide) (by decide) (List.mem_of_getLast? digits)
    exact absurd digit (by decide)

/-- The text of hundredths, character by character. -/
theorem toList_hundredthsText (n : Nat) : (hundredthsText n).toList =
    Nat.toDigits 10 (n / 100) ++
      if n % 100 = 0 then []
      else if n % 10 = 0 then ['.', Nat.digitChar (n % 100 / 10)]
      else ['.', Nat.digitChar (n % 100 / 10), Nat.digitChar (n % 10)] := by
  unfold hundredthsText
  split_ifs with whole tenths small
  · simp
  · simp [toDigits_of_lt (show n % 100 / 10 < 10 by omega)]
  · have none : n % 100 / 10 = 0 := by omega
    have last : n % 10 = n % 100 := by omega
    simp [toDigits_of_lt small, none, last, Nat.digitChar]
  · have two : Nat.toDigits 10 (n % 100) = [Nat.digitChar (n % 100 / 10), Nat.digitChar (n % 10)] := by
      rw [Nat.toDigits_eq_if (by decide), if_neg small, toDigits_of_lt (by omega), Nat.mod_mod_of_dvd n (by decide)]
      rfl
    simp [two]

private theorem trimZeros_placesChars (front : List Char) (n : Nat) :
    trimZeros (front ++ placesChars n) = front ++ (hundredthsText n).toList := by
  have tenths := digitChar_eq_zero_iff (n % 100 / 10) (by omega)
  have ones := digitChar_eq_zero_iff (n % 10) (by omega)
  rw [toList_hundredthsText, placesChars, ← List.append_assoc, ← List.append_assoc]
  generalize hwhole : front ++ Nat.toDigits 10 (n / 100) = whole
  have tenthsLast := trimZeros_zero (whole ++ ['.', Nat.digitChar (n % 100 / 10)])
  rw [List.append_assoc] at tenthsLast
  split_ifs with hundred ten
  · have last : ∀ c ∈ whole.getLast?, c ≠ '.' := hwhole ▸ last_toDigits front (n / 100)
    rw [tenths.2 (by omega)] at tenthsLast ⊢
    rw [ones.2 (by omega)]
    have pointLast := trimZeros_zero (whole ++ ['.'])
    rw [List.append_assoc] at pointLast
    exact (tenthsLast.trans pointLast).trans ((trimZeros_point last).trans (List.append_nil whole).symm)
  · have zero : Nat.digitChar (n % 100 / 10) ≠ '0' := fun h => by have := tenths.1 h; omega
    have stays := trimZeros_concat (whole ++ ['.']) zero (digitChar_ne_point _ (by omega))
    rw [List.append_assoc] at stays
    rw [ones.2 ten]
    exact tenthsLast.trans stays
  · have stays := trimZeros_concat (whole ++ ['.', Nat.digitChar (n % 100 / 10)])
      (fun h => ten (ones.1 h)) (digitChar_ne_point _ (by omega))
    rwa [List.append_assoc] at stays

/-! ## Both ways of writing -/

private theorem sign_not_mem_hundredthsText (n : Nat) : '-' ∉ (hundredthsText n).toList := by
  have digits : '-' ∉ Nat.toDigits 10 (n / 100) := fun h =>
    absurd (Nat.isDigit_of_mem_toDigits (by decide) (by decide) h) (by decide)
  have digit : ∀ k < 10, '-' ≠ Nat.digitChar k := by decide
  have tenths := digit (n % 100 / 10) (by omega)
  have ones := digit (n % 10) (by omega)
  rw [toList_hundredthsText]
  split_ifs <;> simp [digits, tenths, ones]

private theorem hundredthsText_eq_zero_iff {n : Nat} : (hundredthsText n).toList = ['0'] ↔ n = 0 := by
  constructor
  · intro h
    have noPoint : '.' ∉ (hundredthsText n).toList := by rw [h]; decide
    rw [toList_hundredthsText] at h noPoint
    split_ifs at h noPoint with whole tenths
    · rw [List.append_nil, Nat.toDigits_eq_if (by decide)] at h
      split_ifs at h with small
      · have none := (digitChar_eq_zero_iff _ small).1 (List.head_eq_of_cons_eq h)
        omega
      · have short := congrArg List.length h
        have some := List.length_pos_iff.2 (Nat.toDigits_ne_nil (n := n / 100 / 10) (b := 10))
        simp only [List.length_append, List.length_singleton] at short
        omega
    · simp at noPoint
    · simp at noPoint
  · rintro rfl
    decide

private theorem trimmed_signed (n : Nat) :
    (if trimZeros ('-' :: placesChars n) = ['-', '0'] then "0"
      else String.ofList (trimZeros ('-' :: placesChars n))) = signedText true n := by
  have trimmed : trimZeros ('-' :: placesChars n) = '-' :: (hundredthsText n).toList :=
    trimZeros_placesChars ['-'] n
  rw [trimmed]
  by_cases none : n = 0
  · rw [none]
    decide
  · have some : (hundredthsText n).toList ≠ ['0'] := fun h => none (hundredthsText_eq_zero_iff.1 h)
    rw [← String.toList_inj]
    simp [signedText, none, some]

private theorem trimmed_unsigned (n : Nat) :
    (if trimZeros (placesChars n) = ['-', '0'] then "0"
      else String.ofList (trimZeros (placesChars n))) = signedText false n := by
  have trimmed : trimZeros (placesChars n) = (hundredthsText n).toList := trimZeros_placesChars [] n
  have other : (hundredthsText n).toList ≠ ['-', '0'] := by
    intro h
    have sign := sign_not_mem_hundredthsText n
    rw [h] at sign
    exact sign List.mem_cons_self
  rw [trimmed, if_neg other, String.ofList_toList]
  rfl

namespace Binary64

/-- Rounding to hundredths and trimming writes the count of hundredths with its sign. -/
theorem roundedText_eq (x : Binary64) : x.roundedText = signedText x.negative x.hundredths := by
  rw [roundedText, placesText]
  cases x.negative with
  | true => exact trimmed_signed x.hundredths
  | false => exact trimmed_unsigned x.hundredths

/-- One is made of units. -/
theorem unitsPerOne_pos : 0 < unitsPerOne := by decide +kernel

/-- The count of hundredths of a whole number. -/
theorem hundredths_of_isWhole {x : Binary64} (whole : x.isWhole = true) : x.hundredths = x.wholePart * 100 := by
  have exact : x.units = x.wholePart * unitsPerOne := by
    have divides := Nat.dvd_of_mod_eq_zero (by simpa [isWhole] using whole)
    exact (Nat.div_mul_cancel divides).symm
  rw [hundredths, exact, Nat.mul_right_comm, roundEven_mul _ unitsPerOne_pos]

/-- The integer of a whole number is written as its count of hundredths with its sign. -/
theorem toString_truncated {x : Binary64} (whole : x.isWhole = true) :
    toString x.truncated = signedText x.negative x.hundredths := by
  have text : hundredthsText (x.wholePart * 100) = toString x.wholePart := by simp [hundredthsText]
  rw [hundredths_of_isWhole whole, signedText, text, truncated]
  cases x.negative with
  | true =>
    cases x.wholePart with
    | zero => rfl
    | succ n => rfl
  | false => rfl

/-- A number is written as its count of hundredths with its sign. -/
theorem styleText_eq (x : Binary64) : x.styleText = signedText x.negative x.hundredths := by
  rw [styleText]
  split
  · next small =>
    rw [Bool.and_eq_true] at small
    exact toString_truncated small.1
  · exact x.roundedText_eq

/-- What rounds to zero is written without a sign. -/
theorem styleText_of_hundredths_eq_zero {x : Binary64} (h : x.hundredths = 0) : x.styleText = "0" := by
  rw [styleText_eq, h, signedText]
  simp only [ne_eq, not_true_eq_false, decide_false, Bool.and_false]
  rfl

end Binary64
end Handoff
