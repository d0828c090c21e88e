import Handoff.Json.Record
import Handoff.Proofs.Ordered.Attempts
import Handoff.Proofs.Ordered.Map
import Handoff.Proofs.Ordered.Sorted

/-!
# Records read back

A record is written as members in declaration order, of which some may be left out. Its fields are those
members, so a field is read from what was written for it, and a field that was left out as its default.
-/

namespace Handoff.Json

/-! ## Lists and maps -/

section

variable {α : Type} {value? : Json → Option α} {toJson : α → Json}

/-- A written list is read as that list. -/
theorem list?_array (read : ∀ a, value? (toJson a) = some a) (l : List α) :
    list? value? (array (l.map toJson)) = some l :=
  mapM_map_eq_some read l

/-- A written list of strings is read as that list. -/
theorem list?_ofStrings (l : List String) : list? string? (ofStrings l) = some l := by
  have read (s : String) : string? (string s) = some s := rfl
  exact list?_array read l

private theorem members?_map (read : ∀ a, value? (toJson a) = some a) (l : List (String × α)) :
    members? value? (object (l.map fun e => (e.1, toJson e.2))) = some l := by
  have each (e : String × α) : (value? (toJson e.2)).map (e.1, ·) = some e := by
    rw [read, Option.map_some]
  exact mapM_map_eq_some each l

/-- A written map is read as that map. -/
theorem orderedMap?_ofOrderedMap (read : ∀ a, value? (toJson a) = some a) (m : OrderedMap α) :
    orderedMap? value? (ofOrderedMap m toJson) = some m := by
  rw [orderedMap?, ofOrderedMap, members?_map read, Option.map_some, OrderedMap.ofList_entries]

/-- A written sorted map is read as that map. -/
theorem sortedMap?_ofSortedMap (read : ∀ a, value? (toJson a) = some a) (m : SortedMap α) :
    sortedMap? value? (ofSortedMap m toJson) = some m := by
  rw [sortedMap?, ofSortedMap, members?_map read, Option.map_some, SortedMap.ofList_entries]

end

/-! ## Fields -/

/-- A reader goes on with what its first step reads. -/
theorem reads_bind {α β : Type} {step : Option α} {rest : α → Option β} {a : α} {b : β}
    (first : step = some a) (others : rest a = some b) : (step >>= rest) = some b := by
  rw [first]
  exact others

/-- The members of an object. -/
def memberList : Json → Fields
  | object members => members
  | _ => []

@[simp] theorem memberList_object (members : List (String × Json)) : (object members).memberList = members :=
  rfl

/-- Which member is written on a condition. -/
@[simp] theorem mem_memberIf {m : String × Json} {condition : Bool} {name : String} {value : Json} :
    m ∈ memberIf condition name value ↔ condition = true ∧ m = (name, value) := by
  cases condition <;> simp [memberIf]

/-- Which member is written for a value. -/
@[simp] theorem mem_memberOf {α : Type} {m : String × Json} {name : String} {value : Option α}
    {toJson : α → Json} : m ∈ memberOf name value toJson ↔ ∃ a, value = some a ∧ m = (name, toJson a) := by
  cases value <;> simp [memberOf]

/-- What holds of a member that is written on a condition. -/
theorem forall_mem_memberIf {P : String × Json → Prop} {condition : Bool} {name : String} {value : Json} :
    (∀ m ∈ memberIf condition name value, P m) ↔ (condition = true → P (name, value)) := by
  cases condition <;> simp [memberIf]

/-- What holds of a member that is written for a value. -/
theorem forall_mem_memberOf {α : Type} {P : String × Json → Prop} {name : String} {value : Option α}
    {toJson : α → Json} :
    (∀ m ∈ memberOf name value toJson, P m) ↔ ∀ a, value = some a → P (name, toJson a) := by
  cases value <;> simp [memberOf]

section

variable {names rest : List String} (h : rest.Sublist names)
include h

/-- A member that is written on a condition keeps the declaration order. -/
theorem sublist_memberIf (condition : Bool) (name : String) (value : Json) :
    ((memberIf condition name value).map Prod.fst ++ rest).Sublist (name :: names) := by
  cases condition
  · exact h.cons name
  · exact h.cons_cons name

/-- A member that is written for a value keeps the declaration order. -/
theorem sublist_memberOf {α : Type} (name : String) (value : Option α) (toJson : α → Json) :
    ((memberOf name value toJson).map Prod.fst ++ rest).Sublist (name :: names) := by
  cases value
  · exact h.cons name
  · exact h.cons_cons name

end

/-- Members in declaration order are the fields of their object. -/
theorem fields?_object {names : List String} {members : List (String × Json)}
    (order : (members.map Prod.fst).Sublist names) (distinct : names.Nodup) :
    (object members).fields? names = some members := by
  have known : members.filter (fun m => names.contains m.1) = members := by
    rw [List.filter_eq_self]
    intro m hm
    simpa using order.subset (List.mem_map_of_mem hm)
  show (if ((members.filter fun m => names.contains m.1).map Prod.fst).Nodup then _ else _) = _
  rw [known, if_pos (distinct.sublist order)]

section

variable {name field : String} {rest : List (String × Json)}

/-- What a member is found as. -/
@[simp] theorem lookup_member (value : Json) : ((name, value) :: rest).lookup field =
    if field = name then some value else rest.lookup field := by
  by_cases h : field = name
  · simp [h]
  · have apart : (field == name) = false := beq_false_of_ne h
    simp [List.lookup_cons, apart, h]

/-- What a member that is written on a condition is found as. -/
@[simp] theorem lookup_memberIf (condition : Bool) (value : Json) :
    (memberIf condition name value ++ rest).lookup field =
      if field = name ∧ condition = true then some value else rest.lookup field := by
  cases condition <;> simp [memberIf, lookup_member]

/-- What a last member that is written on a condition is found as. -/
@[simp] theorem lookup_last_memberIf (condition : Bool) (value : Json) :
    (memberIf condition name value).lookup field =
      if field = name ∧ condition = true then some value else none := by
  cases condition <;> simp [memberIf]

/-- What a member that is written for a value is found as. -/
@[simp] theorem lookup_memberOf {α : Type} (value : Option α) (toJson : α → Json) :
    (memberOf name value toJson ++ rest).lookup field =
      if field = name then (value.map toJson).or (rest.lookup field) else rest.lookup field := by
  cases value <;> simp [memberOf, lookup_member]

/-- What a last member that is written for a value is found as. -/
@[simp] theorem lookup_last_memberOf {α : Type} (value : Option α) (toJson : α → Json) :
    (memberOf name value toJson).lookup field =
      if field = name then value.map toJson else none := by
  cases value <;> simp [memberOf]

end

section

variable {α : Type} {f : Fields} {name : String} {value? : Json → Option α} {a : α}

/-- A field that was written is read. -/
theorem required_of_written (j : Json) (h : f.lookup name = some j) (read : value? j = some a) :
    f.required name value? = some a := by
  rw [Fields.required, h]
  exact read

/-- A field with a default that was written is read. -/
theorem withDefault_of_written {default : α} (j : Json) (h : f.lookup name = some j)
    (read : value? j = some a) : f.withDefault name default value? = some a := by
  rw [Fields.withDefault, h]
  exact read

/-- A field that was written unless it had its default is read. -/
theorem withDefault_of_lookup {default : α} [Decidable (a = default)] (j : Json)
    (h : f.lookup name = if a = default then none else some j) (read : value? j = some a) :
    f.withDefault name default value? = some a := by
  rw [Fields.withDefault, h]
  split
  · next same =>
    split at same
    · cases same
    · cases same
      exact read
  · next absent =>
    split at absent
    · next same => rw [same]
    · cases absent

/-- A field that was written for an optional value is read. -/
theorem optional_of_lookup {value : Option α} (toJson : α → Json)
    (h : f.lookup name = value.map toJson) (read : ∀ a, value? (toJson a) = some a)
    (present : ∀ a, toJson a ≠ null) : f.optional name value? = some value := by
  rw [Fields.optional, Fields.withDefault, h]
  cases value with
  | none => rfl
  | some a =>
    have some_of {j : Json} (h : j ≠ null) : option? value? j = (value? j).map some := by
      cases j <;> first | rfl | exact absurd rfl h
    show option? value? (toJson a) = _
    rw [some_of (present a), read]
    rfl

end

end Handoff.Json
