import Handoff.Text.Split

/-!
# Cutting texts that were joined

Text that was joined with a separator is cut at it again: what stands before the separator and what follows
it are cut on their own. So lines that are written one after the other are read again.
-/

namespace Handoff.Text

variable {sep : Char}

/-- A text that holds no separator is not split. -/
theorem splitOnChar_of_not_mem {s : List Char} (h : sep ∉ s) : splitOnChar sep s = [s] := by
  induction s with
  | nil => rfl
  | cons c rest ih =>
    rw [List.mem_cons, not_or] at h
    rw [splitOnChar, ih h.2, if_neg (Ne.symm h.1)]

/-- What stands before a separator and what follows it are split on their own. -/
theorem splitOnChar_append (before rest : List Char) :
    splitOnChar sep (before ++ sep :: rest) = splitOnChar sep before ++ splitOnChar sep rest := by
  induction before with
  | nil => simp [splitOnChar]
  | cons c before ih =>
    rw [List.cons_append, splitOnChar, ih, splitOnChar]
    split
    · rfl
    · cases hs : splitOnChar sep before with
      | nil => exact absurd hs (splitOnChar_ne_nil sep before)
      | cons piece pieces => rfl

/-- Lines that are written one after the other are read again. -/
theorem lines_flatMap {pieces : List (List Char)} (flat : ∀ piece ∈ pieces, '\n' ∉ piece) :
    lines (pieces.flatMap (· ++ ['\n'])) = pieces := by
  have split : splitOnChar '\n' (pieces.flatMap (· ++ ['\n'])) = pieces ++ [[]] := by
    induction pieces with
    | nil => rfl
    | cons piece rest ih =>
      rw [List.flatMap_cons, List.append_assoc, List.singleton_append, splitOnChar_append,
        splitOnChar_of_not_mem (flat piece List.mem_cons_self),
        ih fun p hp => flat p (List.mem_cons_of_mem _ hp)]
      rfl
  simp [lines, split]

end Handoff.Text
