import Handoff.Json.Record
import Handoff.Proofs.Json.Indented

/-!
# Plain values

What documents and bundles are written as is plain: strings, numbers, booleans and nulls, nested in few
levels. So it can be read within the limit of levels, and it is read from what is printed for it as soon as
each of its numbers is.
-/

namespace Handoff

/-- Whether the printed form of a number is read as that number. -/
def Binary64.ReadsBack (x : Binary64) : Prop :=
  Json.numeral? (Json.numberChars x) = some (.number x, [])

/-- Check that the printed form of a number is read as that number. -/
def Binary64.readsBack (x : Binary64) : Bool :=
  match Json.numeral? (Json.numberChars x) with
  | some (.number y, []) => y == x
  | _ => false

theorem Binary64.readsBack_iff {x : Binary64} : x.readsBack = true ↔ x.ReadsBack := by
  unfold readsBack ReadsBack
  constructor
  · intro h
    split at h
    · next y hy => rw [hy, eq_of_beq h]
    · cases h
  · intro h
    rw [h]
    exact beq_self_eq_true x

instance (x : Binary64) : Decidable x.ReadsBack := decidable_of_iff _ Binary64.readsBack_iff

namespace Json

/-- Whether a value consists of strings, numbers, booleans and nulls in at most so many levels of arrays
and objects. -/
def Plain : Nat → Json → Prop
  | _, null => True
  | _, bool _ => True
  | _, number _ => True
  | _, string _ => True
  | levels + 1, array items => ∀ item ∈ items, Plain levels item
  | levels + 1, object members => ∀ m ∈ members, Plain levels m.2
  | _, _ => False

mutual

/-- The numbers in a value. -/
def numbers : Json → List Binary64
  | number x => [x]
  | array items => numbersOfItems items
  | object members => numbersOfMembers members
  | _ => []

/-- The numbers in items. -/
def numbersOfItems : List Json → List Binary64
  | [] => []
  | item :: rest => numbers item ++ numbersOfItems rest

/-- The numbers in the values of members. -/
def numbersOfMembers : List (String × Json) → List Binary64
  | [] => []
  | (_, value) :: rest => numbers value ++ numbersOfMembers rest

end

/-- The numbers in an array are those in its items. -/
@[simp] theorem numbers_array (items : List Json) : (array items).numbers = items.flatMap numbers := by
  rw [numbers]
  induction items with
  | nil => rfl
  | cons item rest ih => rw [numbersOfItems, ih, List.flatMap_cons]

/-- The numbers in an object are those in its values. -/
@[simp] theorem numbers_object (members : List (String × Json)) :
    (object members).numbers = members.flatMap fun m => m.2.numbers := by
  rw [numbers]
  induction members with
  | nil => rfl
  | cons m rest ih =>
    obtain ⟨key, value⟩ := m
    rw [numbersOfMembers, ih, List.flatMap_cons]

@[simp] theorem numbers_number (x : Binary64) : (number x).numbers = [x] := rfl

@[simp] theorem numbers_string (s : String) : (string s).numbers = [] := rfl

/-- There are no numbers in a list of strings. -/
@[simp] theorem numbers_ofStrings (l : List String) : (ofStrings l).numbers = [] := by
  rw [ofStrings, numbers_array, List.flatMap_map, List.flatMap_eq_nil_iff]
  exact fun _ _ => rfl

/-- The numbers in a map are those in its values. -/
theorem numbers_ofOrderedMap {α : Type} (m : OrderedMap α) (toJson : α → Json) :
    (ofOrderedMap m toJson).numbers = m.entries.flatMap fun e => (toJson e.2).numbers := by
  rw [ofOrderedMap, numbers_object, List.flatMap_map]

/-- There are no numbers in a map to strings. -/
@[simp] theorem numbers_ofStringMap (m : OrderedMap String) : (ofOrderedMap m string).numbers = [] := by
  rw [numbers_ofOrderedMap, List.flatMap_eq_nil_iff]
  exact fun _ _ => rfl

/-- The numbers in a sorted map are those in its values. -/
theorem numbers_ofSortedMap {α : Type} (m : SortedMap α) (toJson : α → Json) :
    (ofSortedMap m toJson).numbers = m.entries.flatMap fun e => (toJson e.2).numbers := by
  rw [ofSortedMap, numbers_object, List.flatMap_map]

/-! ## What plain values are good for -/

private theorem nestingItems_le_iff {items : List Json} {levels : Nat} :
    nestingItems items ≤ levels ↔ ∀ item ∈ items, item.nesting ≤ levels := by
  induction items with
  | nil => simp [nestingItems]
  | cons item rest ih => rw [nestingItems, Nat.max_le, ih, List.forall_mem_cons]

private theorem nestingMembers_le_iff {members : List (String × Json)} {levels : Nat} :
    nestingMembers members ≤ levels ↔ ∀ m ∈ members, m.2.nesting ≤ levels := by
  induction members with
  | nil => simp [nestingMembers]
  | cons m rest ih => rw [nestingMembers, Nat.max_le, ih, List.forall_mem_cons]

private theorem legibleItems_iff {items : List Json} :
    LegibleItems items ↔ ∀ item ∈ items, Legible item := by
  induction items with
  | nil => simp [LegibleItems]
  | cons item rest ih => simp [LegibleItems, ih]

private theorem legibleMembers_iff {members : List (String × Json)} :
    LegibleMembers members ↔ ∀ m ∈ members, Legible m.2 := by
  induction members with
  | nil => simp [LegibleMembers]
  | cons m rest ih => simp [LegibleMembers, ih]

/-- A plain value is nested no deeper than its levels. -/
theorem nesting_le_of_plain {levels : Nat} {j : Json} (h : Plain levels j) : j.nesting ≤ levels := by
  induction levels generalizing j with
  | zero => cases j <;> first | exact Nat.le_refl 0 | exact h.elim
  | succ levels ih =>
    cases j with
    | array items =>
      rw [nesting, Nat.add_le_add_iff_right, nestingItems_le_iff]
      exact fun item hi => ih (h item hi)
    | object members =>
      rw [nesting, Nat.add_le_add_iff_right, nestingMembers_le_iff]
      exact fun m hm => ih (h m hm)
    | int i => exact h.elim
    | unusable => exact h.elim
    | _ => exact Nat.zero_le _

/-- A plain value whose numbers read back is used as it is printed. -/
theorem legible_of_plain {levels : Nat} {j : Json} (h : Plain levels j)
    (back : ∀ x ∈ j.numbers, x.ReadsBack) : Legible j := by
  induction levels generalizing j with
  | zero =>
    cases j with
    | number x => exact back x List.mem_cons_self
    | int i => exact h.elim
    | array items => exact h.elim
    | object members => exact h.elim
    | unusable => exact h.elim
    | _ => trivial
  | succ levels ih =>
    cases j with
    | number x => exact back x List.mem_cons_self
    | array items =>
      rw [numbers_array] at back
      rw [Legible, legibleItems_iff]
      exact fun item hi => ih (h item hi) fun x hx => back x (List.mem_flatMap.2 ⟨item, hi, hx⟩)
    | object members =>
      rw [numbers_object] at back
      rw [Legible, legibleMembers_iff]
      exact fun m hm => ih (h m hm) fun x hx => back x (List.mem_flatMap.2 ⟨m, hm, hx⟩)
    | int i => exact h.elim
    | unusable => exact h.elim
    | _ => trivial

/-- The compact text of a plain value whose numbers read back is parsed to that value. -/
theorem parse?_compact_of_plain {j : Json} (h : Plain levelLimit j)
    (back : ∀ x ∈ j.numbers, x.ReadsBack) : parse? (compact j) = some j :=
  parse?_compact (legible_of_plain h back) (nesting_le_of_plain h)

/-- The indented text of a plain value whose numbers read back is parsed to that value. -/
theorem parse?_indented_of_plain {j : Json} (h : Plain levelLimit j)
    (back : ∀ x ∈ j.numbers, x.ReadsBack) : parse? (indented j) = some j :=
  parse?_indented (legible_of_plain h back) (nesting_le_of_plain h)

/-- More levels allow for no less. -/
theorem Plain.mono {levels more : Nat} {j : Json} (h : Plain levels j) (le : levels ≤ more) :
    Plain more j := by
  induction levels generalizing j more with
  | zero => cases j <;> cases more <;> trivial
  | succ levels ih =>
    obtain ⟨more, rfl⟩ : ∃ n, more = n + 1 := ⟨more - 1, by omega⟩
    cases j with
    | array items => exact fun item hi => ih (h item hi) (by omega)
    | object members => exact fun m hm => ih (h m hm) (by omega)
    | int i => exact h.elim
    | unusable => exact h.elim
    | _ => trivial

/-! ## Plain parts -/

section

variable {α : Type} {levels : Nat} {toJson : α → Json}

/-- An object is plain if its values are. -/
@[simp] theorem plain_object_iff {members : List (String × Json)} :
    Plain (levels + 1) (object members) ↔ ∀ m ∈ members, Plain levels m.2 := Iff.rfl

@[simp] theorem plain_string (s : String) : Plain levels (string s) := by
  cases levels <;> trivial

@[simp] theorem plain_bool (b : Bool) : Plain levels (bool b) := by
  cases levels <;> trivial

@[simp] theorem plain_number (x : Binary64) : Plain levels (number x) := by
  cases levels <;> trivial

/-- A list of plainly written values is plain. -/
theorem plain_array (h : ∀ a, Plain levels (toJson a)) (l : List α) :
    Plain (levels + 1) (array (l.map toJson)) :=
  List.forall_mem_map.2 fun a _ => h a

/-- A list of strings is plain. -/
@[simp] theorem plain_ofStrings (l : List String) : Plain (levels + 1) (ofStrings l) :=
  plain_array plain_string l

/-- A map of plainly written values is plain. -/
theorem plain_ofOrderedMap (h : ∀ a, Plain levels (toJson a)) (m : OrderedMap α) :
    Plain (levels + 1) (ofOrderedMap m toJson) :=
  List.forall_mem_map.2 fun e _ => h e.2

/-- A sorted map of plainly written values is plain. -/
theorem plain_ofSortedMap (h : ∀ a, Plain levels (toJson a)) (m : SortedMap α) :
    Plain (levels + 1) (ofSortedMap m toJson) :=
  List.forall_mem_map.2 fun e _ => h e.2

end

end Json
end Handoff
