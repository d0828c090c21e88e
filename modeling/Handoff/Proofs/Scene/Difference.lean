import Handoff.Proofs.Json.Record
import Handoff.Proofs.Json.Sameness
import Handoff.Proofs.Scene.Mapping
import Handoff.Scene.Change

/-!
# What a comparison of two versions of a node sees

A field is recorded as changed exactly if it is written differently in the two versions. Which other
fields are recorded does not depend on plugin data, and versions of which no other field is recorded say
the same without plugin data. A version that is written the same has no record.
-/

namespace Handoff

/-! ## Written nodes -/

namespace Node

/-- The members of a node stand in declaration order, each at most once. -/
theorem map_fst_members (n : Node) : (n.members.map Prod.fst).Sublist fieldNames := by
  rw [← List.append_nil (n.members.map Prod.fst)]
  unfold members
  simp only [List.append_assoc, List.map_append, List.map_cons, List.cons_append, List.nil_append]
  unfold fieldNames
  repeat first
    | apply List.Sublist.cons_cons
    | apply Json.sublist_memberIf
    | apply Json.sublist_memberOf
  exact List.Sublist.refl []

/-- The members of a node as a map. -/
def written (n : Node) : OrderedMap Json :=
  ⟨n.members, n.map_fst_members.nodup (by decide)⟩

/-- The map of a node finds what its list of members has. -/
theorem get?_written (n : Node) (field : String) :
    n.written.get? field = n.members.lookup field := rfl

/-- The members of a node are those that it has without plugin data, and after them its plugin data, if
there is any. -/
theorem members_eq (n : Node) :
    n.members = n.bare.members ++ Json.memberIf (!n.pluginData.isEmpty) "pluginData"
      (.ofSortedMap n.pluginData fun group => .ofSortedMap group .string) := by
  unfold members
  rw [show n.bare.pluginData.isEmpty = true from rfl]
  rw [show Json.memberIf (!true) "pluginData"
      (.ofSortedMap n.bare.pluginData fun group => .ofSortedMap group .string) = [] from rfl]
  rw [List.append_nil]
  unfold bare
  with_reducible rfl

/-- A node without plugin data has no member for it. -/
theorem pluginData_not_mem_bare (n : Node) : "pluginData" ∉ n.bare.written.keys := by
  let tagged : Node := { n with pluginData := SortedMap.empty.insert "" .empty }
  have distinct := tagged.written.nodup
  have entries : tagged.written.entries = n.bare.members ++ [("pluginData", _)] := tagged.members_eq
  rw [entries, List.map_append, List.nodup_append] at distinct
  intro h
  exact distinct.2.2 _ h _ (List.mem_singleton_self _) rfl

/-- Every other field is written the same without plugin data. -/
theorem written_bare {field : String} (h : field ≠ "pluginData") (n : Node) :
    n.bare.written.get? field = n.written.get? field := by
  rw [get?_written, get?_written, members_eq n, List.lookup_append]
  have other : (Json.memberIf (!n.pluginData.isEmpty) "pluginData"
      (.ofSortedMap n.pluginData fun group => .ofSortedMap group .string)).lookup field = none := by
    unfold Json.memberIf
    split
    · simp [h]
    · rfl
  rw [other, Option.or_none]

/-- Plugin data is written if there is any. -/
theorem written_pluginData (n : Node) :
    n.written.get? "pluginData" =
      if n.pluginData.isEmpty then none
      else some (.ofSortedMap n.pluginData fun group => .ofSortedMap group .string) := by
  have absent : n.bare.members.lookup "pluginData" = none := by
    cases hv : n.bare.written.get? "pluginData" with
    | none => exact hv
    | some j => exact absurd (OrderedMap.mem_keys_of_get? hv) n.pluginData_not_mem_bare
  rw [get?_written, members_eq n, List.lookup_append, absent, Option.none_or, Json.memberIf]
  cases n.pluginData.isEmpty
  · simp
  · rfl

end Node

/-! ## Recorded fields -/

/-- A field is written the same if both nodes write values that say the same, or neither writes any. -/
theorem sameField_eq_true_iff {old new : Node} {field : String} :
    sameField old.members new.members field = true ↔
      (∃ a b, old.written.get? field = some a ∧ new.written.get? field = some b ∧ a.same b = true) ∨
        old.written.get? field = none ∧ new.written.get? field = none := by
  rw [Node.get?_written, Node.get?_written, sameField]
  cases old.members.lookup field <;> cases new.members.lookup field <;> simp

/-- A field is recorded exactly if it is written differently. -/
theorem mem_changedFields {old new : Node} {field : String} :
    field ∈ changedFields old new ↔ sameField old.members new.members field = false := by
  unfold changedFields
  rw [List.mem_filter, List.mem_mergeSort, List.mem_eraseDups, Bool.not_eq_true']
  have nothing {n : Node} (hn : field ∉ n.members.map Prod.fst) : n.written.get? field = none := by
    cases hv : n.written.get? field with
    | none => rfl
    | some v => exact absurd (OrderedMap.mem_keys_of_get? hv) hn
  refine ⟨fun h => h.2, fun h => ⟨?_, h⟩⟩
  by_cases present : field ∈ old.members.map Prod.fst ++ new.members.map Prod.fst
  · exact present
  · rw [List.mem_append, not_or] at present
    have same := sameField_eq_true_iff.2 (.inr ⟨nothing present.1, nothing present.2⟩)
    rw [h] at same
    cases same

/-- Whether another field than plugin data is recorded does not depend on plugin data. -/
theorem mem_changedFields_bare {old new : Node} {field : String} (h : field ≠ "pluginData") :
    field ∈ changedFields old.bare new.bare ↔ field ∈ changedFields old new := by
  rw [mem_changedFields, mem_changedFields, ← Bool.not_eq_true, ← Bool.not_eq_true,
    sameField_eq_true_iff, sameField_eq_true_iff, Node.written_bare h, Node.written_bare h]

/-- No field is recorded for a node of which every member says the same as itself. -/
theorem not_mem_changedFields_self {n : Node} (h : ∀ e ∈ n.members, e.2.same e.2 = true)
    (field : String) : field ∉ changedFields n n := by
  rw [mem_changedFields, Bool.not_eq_false, sameField_eq_true_iff]
  cases hv : n.written.get? field with
  | none => exact .inr ⟨rfl, rfl⟩
  | some j =>
    have mem : (field, j) ∈ n.written.entries := OrderedMap.mem_of_get? hv
    exact .inl ⟨j, j, rfl, rfl, h (field, j) mem⟩

/-- Plugin data is not recorded for versions of a node that have the same plugin data. -/
theorem pluginData_not_mem_changedFields {old new : Node} (h : old.pluginData = new.pluginData) :
    "pluginData" ∉ changedFields old new := by
  rw [mem_changedFields, Bool.not_eq_false, sameField_eq_true_iff, Node.written_pluginData,
    Node.written_pluginData, h]
  cases new.pluginData.isEmpty with
  | true => exact .inr ⟨rfl, rfl⟩
  | false =>
    refine .inl ⟨_, _, rfl, rfl, ?_⟩
    exact (Json.KeysDistinct.ofSortedMap (.ofSortedMap .string) _).same_self

/-- No field is recorded exactly if both versions are written the same. -/
theorem changedFields_eq_nil_iff {old new : Node} :
    changedFields old new = [] ↔ old.toJson.same new.toJson = true := by
  rw [List.eq_nil_iff_forall_not_mem]
  simp only [mem_changedFields, Bool.not_eq_false, sameField_eq_true_iff]
  exact (Json.same_object_iff old.written.nodup new.written.nodup).symm

/-- Versions of a node of which at most plugin data is recorded say the same without plugin data. -/
theorem same_of_changedFields {old new : Node}
    (h : ∀ field ∈ changedFields old new, field = "pluginData") :
    old.bare.toJson.same new.bare.toJson = true := by
  rw [← changedFields_eq_nil_iff, List.eq_nil_iff_forall_not_mem]
  intro field hf
  by_cases own : field = "pluginData"
  · have same : old.bare.pluginData = new.bare.pluginData := rfl
    rw [own] at hf
    exact pluginData_not_mem_changedFields same hf
  · exact own (h field ((mem_changedFields_bare own).1 hf))

/-! ## Records -/

namespace Document

variable {old new : Document} {c : Change}

/-- The record for a node of the new snapshot creates it if the old one lacks it, and else lists the fields
that are recorded, if there are any. -/
theorem changeOf?_eq_some_iff {n : Node} : old.changeOf? n = some c ↔
    (old.node? n.id = none ∧ c = { kind := .create, node := n.id }) ∨
      ∃ o, old.node? n.id = some o ∧ o.toJson.same n.toJson = false ∧
        c = { kind := .propertyChange, node := n.id, properties := changedFields o n } := by
  rw [changeOf?]
  cases old.node? n.id with
  | none => simp [eq_comm (a := c)]
  | some o =>
    have recorded : o.toJson.same n.toJson = false ↔ changedFields o n ≠ [] := by
      rw [ne_eq, changedFields_eq_nil_iff, Bool.not_eq_true]
    simp only [Option.some.injEq, exists_eq_left', recorded]
    cases changedFields o n <;> simp [eq_comm (a := c)]

/-- The record for a node of the old snapshot deletes it if the new one lacks it. -/
theorem deletionOf?_eq_some_iff {o : Node} : new.deletionOf? o = some c ↔
    new.node? o.id = none ∧ c = { kind := .delete, node := o.id, removed := true } := by
  rw [deletionOf?, contains, node?]
  cases new.place? o.id <;> simp [eq_comm (a := c)]

/-- Every record names the node that it is for. -/
theorem node_of_changeOf? {n : Node} (h : old.changeOf? n = some c) : c.node = n.id := by
  rcases changeOf?_eq_some_iff.1 h with ⟨-, rfl⟩ | ⟨o, -, -, rfl⟩ <;> rfl

end Document
end Handoff
