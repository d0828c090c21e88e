import Handoff.Number.Binary64

/-!
# JSON values

A value keeps the members of an object in the order of the text, repeated keys included; what a
repetition means is for the reader of the value to say. A numeral without point and exponent that fits
in a machine word is an integer, and every other numeral a binary64 number. A leaf that is grammatical
but denotes nothing, such as half of a surrogate pair or a number out of range, is `unusable`: it does
no harm where nobody looks at it. The same goes for what is nested too deeply.
-/

namespace Handoff

/-- A JSON value. -/
inductive Json where
  | null
  | bool (b : Bool)
  | int (i : Int)
  | number (x : Binary64)
  | string (s : String)
  | array (items : List Json)
  | object (members : List (String × Json))
  | unusable
  deriving Inhabited

namespace Json

mutual

/-- Whether a value holds no unusable leaf. -/
def usable : Json → Bool
  | unusable => false
  | array items => usableItems items
  | object members => usableMembers members
  | _ => true

/-- Whether no item holds an unusable leaf. -/
def usableItems : List Json → Bool
  | [] => true
  | item :: rest => usable item && usableItems rest

/-- Whether no member holds an unusable leaf. -/
def usableMembers : List (String × Json) → Bool
  | [] => true
  | (_, value) :: rest => usable value && usableMembers rest

end

mutual

/-- A value in which arrays and objects below a number of levels are unusable. -/
def bounded : Nat → Json → Json
  | 0, array _ => unusable
  | 0, object _ => unusable
  | levels + 1, array items => array (boundedItems levels items)
  | levels + 1, object members => object (boundedMembers levels members)
  | _, j => j

/-- Items with a bound on their levels. -/
def boundedItems (levels : Nat) : List Json → List Json
  | [] => []
  | item :: rest => bounded levels item :: boundedItems levels rest

/-- Members with a bound on their levels. -/
def boundedMembers (levels : Nat) : List (String × Json) → List (String × Json)
  | [] => []
  | (key, value) :: rest => (key, bounded levels value) :: boundedMembers levels rest

end

/-- How many arrays and objects may be nested in a text that is used. -/
def levelLimit : Nat := 127

mutual

/-- Whether two values say the same: numbers are compared by value and objects as maps, so neither the
sign of a zero nor the order of members matters. -/
def same : Json → Json → Bool
  | null, null => true
  | bool a, bool b => a == b
  | int a, int b => a == b
  | number a, number b => a.same b
  | string a, string b => a == b
  | array a, array b => sameItems a b
  | object a, object b => a.length == b.length && sameMembers a b
  | _, _ => false

/-- Whether two lists of items say the same position by position. -/
def sameItems : List Json → List Json → Bool
  | [], [] => true
  | a :: as, b :: bs => same a b && sameItems as bs
  | _, _ => false

/-- Whether every member of the first list has a counterpart in the second. -/
def sameMembers : List (String × Json) → List (String × Json) → Bool
  | [], _ => true
  | (key, value) :: rest, other =>
    (match other.lookup key with
      | some counterpart => same value counterpart
      | none => false) && sameMembers rest other

end

end Json
end Handoff
