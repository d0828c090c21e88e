import Handoff.Json.Basic

/-!
# Tables

A document is a tree of tables. A table comes from a header, is implied by the header of a table below
it, or comes from dotted keys; arrays of tables come from headers too. No table can be defined twice,
and dotted keys cannot reach into a table that a header defines.
-/

namespace Handoff.Toml

/-- Where a table comes from. -/
inductive Origin where
  | header
  | implied
  | dotted
  deriving DecidableEq, Repr, Inhabited

/-- What a key stands for. -/
inductive Item where
  | value (value : Json)
  | table (origin : Origin) (entries : List (String × Item))
  /-- An array of tables that headers define, one after the other. -/
  | tables (items : List (List (String × Item)))

/-- The entries of a table. -/
abbrev Entries := List (String × Item)

/-- Put an item in the place of the one under a key. -/
def Entries.replace (es : Entries) (key : String) (item : Item) : Entries :=
  es.map fun e => if e.1 = key then (key, item) else e

/-- Add an item under a key that is not in use. -/
def Entries.add? (es : Entries) (key : String) (item : Item) : Option Entries :=
  match es.lookup key with
  | some _ => none
  | none => some (es ++ [(key, item)])

/-- Set a value under a dotted key. -/
def Entries.set? : List String → Json → Entries → Option Entries
  | [], _, _ => none
  | [key], value, es => es.add? key (.value value)
  | key :: path, value, es =>
    match es.lookup key with
    | none => (set? path value []).map fun inner => es ++ [(key, .table .dotted inner)]
    | some (.table origin inner) =>
      if origin = .header ∨ (path.length = 1 ∧ origin ≠ .dotted) then none
      else (set? path value inner).map fun inner => es.replace key (.table origin inner)
    | some (.tables items) =>
      if path.length = 1 then none
      else
        (set? path value (items.getLastD [])).map fun last =>
          es.replace key (.tables (items.dropLast ++ [last]))
    | some (.value _) => none

/-- Change the table under a path of headers; where there is none, tables are implied. An array of
tables stands for its last table. -/
def Entries.update? (f : Entries → Option Entries) : List String → Entries → Option Entries
  | [], es => f es
  | key :: path, es =>
    match es.lookup key with
    | none => (update? f path []).map fun inner => es ++ [(key, .table .implied inner)]
    | some (.table origin inner) =>
      (update? f path inner).map fun inner => es.replace key (.table origin inner)
    | some (.tables items) =>
      (update? f path (items.getLastD [])).map fun last =>
        es.replace key (.tables (items.dropLast ++ [last]))
    | some (.value _) => none

/-- Define a table by a header. -/
def Entries.define? (key : String) (es : Entries) : Option Entries :=
  match es.lookup key with
  | none => some (es ++ [(key, .table .header [])])
  | some (.table .implied inner) => some (es.replace key (.table .header inner))
  | some _ => none

/-- Add a table to an array of tables by a header. -/
def Entries.extend? (key : String) (es : Entries) : Option Entries :=
  match es.lookup key with
  | none => some (es ++ [(key, .tables [[]])])
  | some (.tables items) => some (es.replace key (.tables (items ++ [[]])))
  | some _ => none

mutual

/-- The value of an item. -/
def Item.toJson : Item → Json
  | .value value => value
  | .table _ entries => .object (membersOf entries)
  | .tables items => .array (objectsOf items)

/-- The members of a table. -/
def membersOf : List (String × Item) → List (String × Json)
  | [] => []
  | (key, item) :: rest => (key, item.toJson) :: membersOf rest

/-- The objects of an array of tables. -/
def objectsOf : List (List (String × Item)) → List Json
  | [] => []
  | entries :: rest => .object (membersOf entries) :: objectsOf rest

end

end Handoff.Toml
