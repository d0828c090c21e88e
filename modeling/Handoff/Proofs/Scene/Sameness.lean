import Handoff.Proofs.Scene.Difference
import Handoff.Proofs.Scene.Records

/-!
# Written nodes repeat no keys

No record of a document repeats a key when it is written, so that a node says the same as itself. What is
recorded of two versions of a node that differ in plugin data at most is therefore this field and no other.
-/

namespace Handoff

/-! ## Records -/

section

open Json (KeysDistinct)

@[simp] theorem Color.keysDistinct_toJson (c : Color) : KeysDistinct c.toJson :=
  .object (by simp [members]) (by simp [members])

@[simp] theorem Paint.keysDistinct_toJson (p : Paint) : KeysDistinct p.toJson := by
  cases p with
  | solid color visible variableId =>
    cases variableId <;> exact .object (by simp [Json.memberOf]) (by simp [Json.memberOf])
  | image => exact .object (by simp) (by simp)
  | other => exact .object (by simp) (by simp)

@[simp] theorem AutoLayout.keysDistinct_toJson (l : AutoLayout) : KeysDistinct l.toJson :=
  .object (by simp) (by simp)

@[simp] theorem Sizing.keysDistinct_toJson (s : Sizing) : KeysDistinct s.toJson :=
  .object (by simp) (by simp)

@[simp] theorem TextStyle.keysDistinct_toJson (t : TextStyle) : KeysDistinct t.toJson :=
  .object (t.map_fst_toJson.nodup (by decide)) (by simp +contextual [or_imp])

@[simp] theorem PropertyValue.keysDistinct_toJson (v : PropertyValue) : KeysDistinct v.toJson := by
  cases v <;> simp [toJson]

@[simp] theorem PropertyDefinition.keysDistinct_toJson (d : PropertyDefinition) :
    KeysDistinct d.toJson := by
  obtain ⟨kind, default, options⟩ := d
  cases options <;> exact .object (by simp [Json.memberIf]) (by simp [Json.memberIf])

@[simp] theorem PropertyReferences.keysDistinct_toJson (r : PropertyReferences) :
    KeysDistinct r.toJson := by
  obtain ⟨visible, characters, mainComponent⟩ := r
  refine .object ?_ (by simp +contextual [or_imp])
  cases visible <;> cases characters <;> cases mainComponent <;> simp [Json.memberOf]

@[simp] theorem InstanceProperty.keysDistinct_toJson (p : InstanceProperty) : KeysDistinct p.toJson := by
  obtain ⟨kind, value, boundTo⟩ := p
  cases boundTo <;> exact .object (by simp [Json.memberOf]) (by simp [Json.memberOf])

@[simp] theorem Reaction.keysDistinct_toJson (r : Reaction) : KeysDistinct r.toJson := by
  obtain ⟨trigger, url⟩ := r
  cases url <;> exact .object (by simp [Json.memberOf]) (by simp [Json.memberOf])

@[simp] theorem ExportedAsset.keysDistinct_toJson (e : ExportedAsset) : KeysDistinct e.toJson :=
  .object (by simp) (by simp)

end

/-! ## Nodes -/

/-- No member of a node has an unusable leaf or repeats a key. -/
theorem Node.keysDistinct_members (n : Node) : ∀ e ∈ n.members, e.2.KeysDistinct := by
  have definitions := Json.KeysDistinct.ofOrderedMap PropertyDefinition.keysDistinct_toJson n.propertyDefinitions
  have properties := Json.KeysDistinct.ofOrderedMap InstanceProperty.keysDistinct_toJson n.componentProperties
  have variants := Json.KeysDistinct.ofOrderedMap .string n.variantProperties
  have pluginData := Json.KeysDistinct.ofSortedMap (.ofSortedMap .string) n.pluginData
  have fills := Json.KeysDistinct.map Paint.keysDistinct_toJson n.fills
  have strokes := Json.KeysDistinct.map Paint.keysDistinct_toJson n.strokes
  have reactions := Json.KeysDistinct.map Reaction.keysDistinct_toJson n.reactions
  unfold members
  simp only [List.forall_mem_append, List.forall_mem_cons, Json.forall_mem_memberIf,
    Json.forall_mem_memberOf]
  simp [definitions, properties, variants, pluginData, fills, strokes, reactions]

/-- Neither does the value of a field. -/
theorem Node.keysDistinct_of_get? {n : Node} {field : String} {j : Json}
    (h : n.written.get? field = some j) : j.KeysDistinct := by
  have mem : (field, j) ∈ n.written.entries := OrderedMap.mem_of_get? h
  exact n.keysDistinct_members (field, j) mem

/-- Neither does a node, as it is written. -/
theorem Node.keysDistinct_toJson (n : Node) : n.toJson.KeysDistinct :=
  .object n.written.nodup n.keysDistinct_members

/-! ## Recorded fields -/

private theorem nodup_eraseDups : (names : List String) → names.eraseDups.Nodup
  | [] => List.nodup_nil
  | name :: rest => by
    rw [List.eraseDups_cons, List.nodup_cons]
    refine ⟨fun h => ?_, nodup_eraseDups (rest.filter fun other => !other == name)⟩
    simpa using (List.mem_filter.1 (List.mem_eraseDups.1 h)).2
termination_by names => names.length
decreasing_by exact Nat.lt_succ_of_le (List.length_filter_le _ rest)

/-- Fields are recorded in ascending order, each once. -/
theorem pairwise_changedFields {old new : Node} : (changedFields old new).Pairwise (· < ·) := by
  let names := (old.members.map Prod.fst ++ new.members.map Prod.fst).eraseDups
  have ascending : (names.mergeSort fun a b => a ≤ b).Pairwise fun a b => decide (a ≤ b) = true :=
    List.pairwise_mergeSort (by simpa using fun a b c => String.le_trans) (by simpa using String.le_total) names
  have distinct : (names.mergeSort fun a b => a ≤ b).Nodup :=
    (List.mergeSort_perm ..).nodup_iff.2 (nodup_eraseDups _)
  refine ((ascending.and distinct).imp fun {a b} h => ?_).filter _
  exact Decidable.byContradiction fun le => h.2 (String.le_antisymm (of_decide_eq_true h.1) (String.not_lt.1 le))

/-- An ascending list repeats nothing. -/
theorem nodup_of_ascending {l : List String} (ascending : l.Pairwise (· < ·)) : l.Nodup := by
  refine ascending.imp fun {a b} lt same => ?_
  rw [same] at lt
  exact String.lt_irrefl b lt

/-- No field is recorded twice. -/
theorem nodup_changedFields {old new : Node} : (changedFields old new).Nodup :=
  nodup_of_ascending pairwise_changedFields

/-- What is recorded of two versions of a node that differ in plugin data at most is that field, if
anything. -/
theorem changedFields_of_bare_eq {old new : Node} (h : old.bare = new.bare) :
    changedFields old new = [] ∨ changedFields old new = ["pluginData"] := by
  have only : ∀ field ∈ changedFields old new, field = "pluginData" := by
    intro field hf
    refine Decidable.byContradiction fun other => ?_
    rw [← mem_changedFields_bare other, h] at hf
    rw [changedFields_eq_nil_iff.2 new.bare.keysDistinct_toJson.same_self] at hf
    cases hf
  have distinct : (changedFields old new).Nodup := nodup_changedFields
  cases fields : changedFields old new with
  | nil => exact .inl rfl
  | cons field rest =>
    rw [fields] at only distinct
    obtain ⟨rfl, others⟩ := List.forall_mem_cons.1 only
    have none : rest = [] := List.eq_nil_iff_forall_not_mem.2 fun other hm => by
      rw [others other hm] at hm
      exact (List.nodup_cons.1 distinct).1 hm
    rw [none]
    exact .inr rfl

end Handoff
