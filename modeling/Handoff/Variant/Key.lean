import Handoff.Text.Split
import Handoff.Unicode.Letter

/-!
# Variant keys

A member of a variant set is known by its key, the assignments `property=value` joined by a comma and a
blank. Reading a key cuts it at these separators and each part at its first equals sign; a part without
one says nothing. The style class of a member drops the punctuation of its key.
-/

namespace Handoff.VariantKey

/-- The parts of a key between the separators. -/
def splitParts : List Char → List (List Char)
  | [] => [[]]
  | ',' :: ' ' :: rest => [] :: splitParts rest
  | c :: rest =>
    match splitParts rest with
    | [] => [[c]]
    | part :: parts => (c :: part) :: parts

/-- A part cut at its first equals sign, if it has one. -/
def splitPair? : List Char → Option (List Char × List Char)
  | [] => none
  | c :: rest =>
    if c = '=' then some ([], rest) else (splitPair? rest).map fun (k, v) => (c :: k, v)

/-- The assignments of a key. -/
def parse (key : String) : List (String × String) :=
  ((splitParts key.toList).filterMap splitPair?).map fun (k, v) => (String.ofList k, String.ofList v)

/-- The text of one assignment. -/
def assignment (pair : String × String) : String := pair.1 ++ "=" ++ pair.2

/-- The key of a list of assignments. -/
def ofAssignments (pairs : List (String × String)) : String :=
  ", ".intercalate (pairs.map assignment)

/-- Whether a character may stand in a class name. -/
def isClassChar (c : Char) : Bool :=
  Unicode.isAlphanumeric c || c = '_' || c = '$'

/-- The class of a member's style for a slug. -/
def className (slug key : String) : String :=
  slug ++ String.ofList (((splitParts key.toList).flatten.filter (· ≠ '=')).filter isClassChar)

/-- A key has at least one part. -/
theorem splitParts_ne_nil (s : List Char) : splitParts s ≠ [] := by
  unfold splitParts
  split
  · simp
  · simp
  · split <;> simp

end Handoff.VariantKey
