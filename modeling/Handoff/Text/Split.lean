import Handoff.Unicode.Case

/-!
# Cutting and trimming text

Text is cut at every occurrence of one character, so joining the pieces with that character gives the
text back. Trimming removes white space from the ends, and the lines of a text are its pieces at line
feeds without an empty last one.
-/

namespace Handoff.Text

/-- The pieces of a text between the occurrences of `sep`; a text without any is one piece. -/
def splitOnChar (sep : Char) : List Char → List (List Char)
  | [] => [[]]
  | c :: rest =>
    if c = sep then [] :: splitOnChar sep rest
    else
      match splitOnChar sep rest with
      | [] => [[c]]
      | piece :: pieces => (c :: piece) :: pieces

/-- Cutting never yields an empty list of pieces. -/
theorem splitOnChar_ne_nil (sep : Char) (s : List Char) : splitOnChar sep s ≠ [] := by
  cases s with
  | nil => simp [splitOnChar]
  | cons c rest =>
    unfold splitOnChar
    split
    · simp
    · split <;> simp

/-- Joining the pieces with the separator restores the text. -/
theorem intercalate_splitOnChar (sep : Char) (s : List Char) :
    [sep].intercalate (splitOnChar sep s) = s := by
  induction s with
  | nil => rfl
  | cons c rest ih =>
    unfold splitOnChar
    split
    · next h =>
      subst h
      cases hs : splitOnChar c rest with
      | nil => exact absurd hs (splitOnChar_ne_nil _ _)
      | cons p ps => rw [hs] at ih; simp [List.intercalate, List.intersperse] at ih ⊢; exact ih
    · split
      · next hs => exact absurd hs (splitOnChar_ne_nil _ _)
      · next piece pieces hs =>
        rw [hs] at ih
        cases pieces with
        | nil => simpa [List.intercalate] using ih
        | cons q qs => simpa [List.intercalate, List.intersperse] using ih

/-- A text without leading white space. -/
def trimStart (s : List Char) : List Char :=
  s.dropWhile Unicode.isWhiteSpace

/-- A text without trailing white space. -/
def trimEnd (s : List Char) : List Char :=
  (s.reverse.dropWhile Unicode.isWhiteSpace).reverse

/-- A text without white space at either end. -/
def trim (s : List Char) : List Char :=
  trimEnd (trimStart s)

/-- The lines of a text: a line feed ends a line, and a last line may go without. -/
def lines (s : List Char) : List (List Char) :=
  let pieces := splitOnChar '\n' s
  if pieces.getLast? = some [] then pieces.dropLast else pieces

/-- A string without white space at either end. -/
def trimString (s : String) : String :=
  String.ofList (trim s.toList)

end Handoff.Text
