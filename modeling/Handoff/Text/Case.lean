import Handoff.Unicode.Case
import Handoff.Unicode.CaseMap

/-!
# Small and capital forms of words

Lower-casing maps each character to its small form, except that a capital sigma at the end of a word
becomes the final small sigma. Capitalizing a word takes the capital form of its first character and
the small form of each of the others, one at a time and so without the rule for sigma.
-/

namespace Handoff.Text

/-- Whether the first character that case rules do not look past is cased. -/
def startsCased (s : List Char) : Bool :=
  match s.dropWhile Unicode.isCaseIgnorable with
  | [] => false
  | c :: _ => Unicode.isCased c

/-- Whether a sigma between two texts ends a word; `before` is given backwards. -/
def isFinalSigma (before after : List Char) : Bool :=
  startsCased before && !startsCased after

/-- Lower-case a text that follows the characters `before`, which are given backwards. -/
def lowercaseAfter (before : List Char) : List Char → List Char
  | [] => []
  | c :: rest =>
    let small :=
      if c = 'Σ' then [if isFinalSigma before rest then 'ς' else 'σ'] else Unicode.lowerChars c
    small ++ lowercaseAfter (c :: before) rest

/-- The small form of a text. -/
def lowercase (s : List Char) : List Char :=
  lowercaseAfter [] s

/-- The small form of a string. -/
def lowercaseString (s : String) : String :=
  String.ofList (lowercase s.toList)

/-- A word with a capital first character and small ones after it. -/
def capitalize : List Char → List Char
  | [] => []
  | c :: rest => Unicode.upperChars c ++ rest.flatMap Unicode.lowerChars

/-- On ASCII text lower-casing works character by character. -/
theorem lowercaseAfter_of_ascii {s : List Char} (before : List Char)
    (h : ∀ c ∈ s, c.toNat < 128) : lowercaseAfter before s = s.map Char.toLower := by
  induction s generalizing before with
  | nil => rfl
  | cons c rest ih =>
    have hc : c.toNat < 128 := h c (by simp)
    have hs : c ≠ 'Σ' := by rintro rfl; revert hc; decide
    rw [lowercaseAfter, ih _ (fun d hd => h d (by simp [hd]))]
    simp [hs, Unicode.lowerChars_of_ascii hc]

end Handoff.Text
