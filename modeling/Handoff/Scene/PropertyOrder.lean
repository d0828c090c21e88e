import Handoff.Ordered.Map
import Handoff.Scene.Property
import Handoff.Text.Case

/-!
# Orders of properties

Properties are listed in two orders, and both ignore the order in which a document stores them. The
declaration order puts booleans first. The display order puts the conditional types last and groups
the others by type. Within a group keys ascend, compared in small letters before they are compared
exactly.
-/

namespace Handoff.PropertyOrder

/-- Ascending keys, first without regard to case. -/
def byKey (a b : String) : Ordering :=
  (compare (Text.lowercaseString a) (Text.lowercaseString b)).then (compare a b)

/-- Booleans first, otherwise by key. -/
def declaration (a b : String × PropertyType) : Ordering :=
  (compare (b.2 == .boolean) (a.2 == .boolean)).then (byKey a.1 b.1)

/-- Conditional types last, then by type token, then by key. -/
def display (a b : String × PropertyType) : Ordering :=
  ((compare a.2.isConditional b.2.isConditional).then (compare a.2.token b.2.token)).then
    (byKey a.1 b.1)

/-- A list sorted by an order of its items' keys and types; equal items keep their places. -/
def sortBy {α : Type} (order : String × PropertyType → String × PropertyType → Ordering)
    (key : α → String × PropertyType) (items : List α) : List α :=
  items.mergeSort (fun a b => (order (key a) (key b)).isLE)

/-- The definitions of a component in declaration order. -/
def declared (definitions : OrderedMap PropertyDefinition) : List (String × PropertyDefinition) :=
  sortBy declaration (fun e => (e.1, e.2.kind)) definitions.entries

/-- Sorting neither adds nor loses items. -/
theorem sortBy_perm {α : Type}
    (order : String × PropertyType → String × PropertyType → Ordering)
    (key : α → String × PropertyType) (items : List α) : (sortBy order key items).Perm items :=
  List.mergeSort_perm _ _

end Handoff.PropertyOrder
