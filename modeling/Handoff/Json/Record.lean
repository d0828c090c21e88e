import Handoff.Json.Basic
import Handoff.Ordered.Map
import Handoff.Ordered.Sorted

/-!
# Records in JSON

A record is an object with known fields: other members are ignored, and a known field may come only
once. It may also be an array of its fields in declaration order, whose tail may be missing. Each
reader of a leaf accepts one type and converts nothing, except that an integer is also a number.
-/

namespace Handoff.Json

/-- The known fields that a record value gives. -/
abbrev Fields := List (String × Json)

/-- What a format allows in records and tokens. -/
structure RecordStyle where
  /-- Whether an array may go on after the last field. -/
  openEnded : Bool
  /-- What stands under a token that is written as a key. -/
  isNothing : Json → Bool

/-- Whether a value is null. -/
def isNull : Json → Bool
  | null => true
  | _ => false

/-- Arrays end with the last field, and a key that is a token stands for null. -/
def recordStyle : RecordStyle := ⟨false, isNull⟩

/-- The fields of a record whose declared fields are `names`, in a style. -/
def fieldsIn? (style : RecordStyle) (names : List String) : Json → Option Fields
  | object members =>
    let known := members.filter (fun m => names.contains m.1)
    if (known.map Prod.fst).Nodup then some known else none
  | array items =>
    if style.openEnded ∨ items.length ≤ names.length then some (names.zip items) else none
  | _ => none

/-- The fields of a record whose declared fields are `names`. -/
def fields? (names : List String) (j : Json) : Option Fields := fieldsIn? recordStyle names j

/-- A boolean. -/
def bool? : Json → Option Bool
  | bool b => some b
  | _ => none

/-- A string. -/
def string? : Json → Option String
  | string s => some s
  | _ => none

/-- A number. -/
def number? : Json → Option Binary64
  | number x => some x
  | int i => Binary64.ofInt? i
  | _ => none

/-- A natural number that fits in 64 bits. -/
def nat? : Json → Option Nat
  | int (.ofNat n) => some n
  | _ => none

/-- A list of values. -/
def list? {α : Type} (item? : Json → Option α) : Json → Option (List α)
  | array items => items.mapM item?
  | _ => none

/-- The members of an object, each value read. -/
def members? {α : Type} (value? : Json → Option α) : Json → Option (List (String × α))
  | object members => members.mapM (fun m => (value? m.2).map (m.1, ·))
  | _ => none

/-- A map in the order of the text; a repeated key replaces the value at its first place. -/
def orderedMap? {α : Type} (value? : Json → Option α) (j : Json) : Option (OrderedMap α) :=
  (members? value? j).map OrderedMap.ofList

/-- A map sorted by key; the last of repeated keys counts. -/
def sortedMap? {α : Type} (value? : Json → Option α) (j : Json) : Option (SortedMap α) :=
  (members? value? j).map SortedMap.ofList

/-- A token of an enumeration in a style: a string, or an object from the token to nothing. -/
def tokenIn? (style : RecordStyle) : Json → Option String
  | string s => some s
  | object [(s, j)] => if style.isNothing j then some s else none
  | _ => none

/-- A token of an enumeration. -/
def token? (j : Json) : Option String := tokenIn? recordStyle j

/-- An optional value, where null is none. -/
def option? {α : Type} (value? : Json → Option α) : Json → Option (Option α)
  | null => some none
  | j => (value? j).map some

namespace Fields

/-- A field that must be present. -/
def required {α : Type} (f : Fields) (name : String) (value? : Json → Option α) : Option α :=
  match f.lookup name with
  | some j => value? j
  | none => none

/-- A field with a default. -/
def withDefault {α : Type} (f : Fields) (name : String) (default : α) (value? : Json → Option α) :
    Option α :=
  match f.lookup name with
  | some j => value? j
  | none => some default

/-- A field that may be absent or null. -/
def optional {α : Type} (f : Fields) (name : String) (value? : Json → Option α) :
    Option (Option α) :=
  f.withDefault name none (option? value?)

end Fields

/-- One member if a condition holds, none otherwise. -/
def memberIf (condition : Bool) (name : String) (value : Json) : List (String × Json) :=
  if condition then [(name, value)] else []

/-- One member if there is a value, none otherwise. -/
def memberOf {α : Type} (name : String) (value : Option α) (toJson : α → Json) :
    List (String × Json) :=
  match value with
  | some a => [(name, toJson a)]
  | none => []

/-- The object of a map. -/
def ofOrderedMap {α : Type} (m : OrderedMap α) (toJson : α → Json) : Json :=
  object (m.entries.map fun e => (e.1, toJson e.2))

/-- The object of a sorted map. -/
def ofSortedMap {α : Type} (m : SortedMap α) (toJson : α → Json) : Json :=
  object (m.entries.map fun e => (e.1, toJson e.2))

/-- The array of a list of strings. -/
def ofStrings (l : List String) : Json := array (l.map string)

/-- A natural number. -/
def ofNat (n : Nat) : Json := int n

/-- A string or null. -/
def ofOption {α : Type} (value : Option α) (toJson : α → Json) : Json :=
  match value with
  | some a => toJson a
  | none => null

end Handoff.Json
