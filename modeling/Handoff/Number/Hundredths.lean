import Handoff.Number.Binary64

/-!
# Numbers with two decimal places

Style values are written with at most two decimal places: the exact value is rounded to hundredths, a
tie to the even hundredth, and neither trailing zeros nor a bare point nor a negative zero remain. Whole
numbers that are not too large are written as integers.
-/

namespace Handoff

/-- The decimal text of a count of hundredths, without trailing zeros. -/
def hundredthsText (n : Nat) : String :=
  let whole := toString (n / 100)
  if n % 100 = 0 then whole
  else if n % 10 = 0 then whole ++ "." ++ toString (n % 100 / 10)
  else if n % 100 < 10 then whole ++ ".0" ++ toString (n % 100)
  else whole ++ "." ++ toString (n % 100)

/-- A count of hundredths with both of its decimal places. -/
def placesChars (n : Nat) : List Char :=
  Nat.toDigits 10 (n / 100) ++ ['.', Nat.digitChar (n % 100 / 10), Nat.digitChar (n % 10)]

/-- A numeral without the zeros at its end, and without a point that stands there then. -/
def trimZeros (text : List Char) : List Char :=
  ((text.reverse.dropWhile (· = '0')).dropWhile (· = '.')).reverse

/-- Whole numbers from here on are rounded like all others. -/
def wholeLimit : Nat := Nat.pow 10 15

namespace Binary64

/-- Whether a number is whole. -/
def isWhole (x : Binary64) : Bool := x.units % unitsPerOne == 0

/-- The magnitude without its fraction. -/
def wholePart (x : Binary64) : Nat := x.units / unitsPerOne

/-- The number without its fraction, as an integer. -/
def truncated (x : Binary64) : Int := if x.negative then -(x.wholePart : Int) else x.wholePart

/-- The magnitude in hundredths, a tie to the even one. -/
def hundredths (x : Binary64) : Nat :=
  roundEven (x.units * 100) unitsPerOne

/-- The text of a number with two decimal places, where the sign of a number that rounds to zero stays. -/
def placesText (x : Binary64) : List Char :=
  if x.negative then '-' :: placesChars x.hundredths else placesChars x.hundredths

/-- The text of a number that is rounded to hundredths and trimmed. -/
def roundedText (x : Binary64) : String :=
  if trimZeros x.placesText = ['-', '0'] then "0" else String.ofList (trimZeros x.placesText)

/-- The text of a number in style sheets. -/
def styleText (x : Binary64) : String :=
  if x.isWhole && x.wholePart < wholeLimit then toString x.truncated else x.roundedText

end Binary64
end Handoff
