import Handoff.Proofs.Scene.Sameness
import Handoff.Proofs.Scene.Snapshot
import Handoff.Proofs.Scene.Soundness

/-!
# What a comparison of snapshots reports

Comparing two sound documents reports every node that only one of them has and every node that the two write
differently, each once, and nothing else. Compared the other way round they are reported the same, but that
creations and deletions are exchanged.
-/

namespace Handoff

/-! ## Recorded fields -/

/-- Whether a field is written for only one of two nodes, or with values that do not say the same. -/
def Node.Differ (old new : Node) (field : String) : Prop :=
  (old.written.get? field).isSome ≠ (new.written.get? field).isSome ∨
    ∃ a b, old.written.get? field = some a ∧ new.written.get? field = some b ∧ a.same b = false

section

variable {old new : Node} {field : String}

/-- The fields that are recorded are those that differ. -/
theorem mem_changedFields_iff_differ : field ∈ changedFields old new ↔ old.Differ new field := by
  rw [mem_changedFields, ← Bool.not_eq_true, sameField_eq_true_iff, Node.Differ]
  cases old.written.get? field <;> cases new.written.get? field <;> simp

/-- Whether a field differs does not depend on which node comes first. -/
theorem Node.differ_comm : old.Differ new field ↔ new.Differ old field := by
  have symm {old new : Node} (h : old.Differ new field) : new.Differ old field := by
    rcases h with one | ⟨a, b, ha, hb, differ⟩
    · exact .inl one.symm
    · refine .inr ⟨b, a, hb, ha, ?_⟩
      rwa [(keysDistinct_of_get? hb).same_comm (keysDistinct_of_get? ha)]
  exact ⟨symm, symm⟩

/-- There is one ascending list of the fields that differ. -/
theorem eq_changedFields {fields : List String} (ascending : fields.Pairwise (· < ·))
    (mem : ∀ field, field ∈ fields ↔ old.Differ new field) : fields = changedFields old new := by
  have perm : fields.Perm (changedFields old new) :=
    (List.perm_ext_iff_of_nodup (nodup_of_ascending ascending) nodup_changedFields).2 fun field =>
      (mem field).trans mem_changedFields_iff_differ.symm
  exact perm.eq_of_pairwise (fun _ _ _ _ h h' => absurd h' (String.lt_asymm h)) ascending
    pairwise_changedFields

end

/-! ## Reports -/

/-- The record of the opposite change: what was created is deleted, and the other way round. -/
def Change.reverse (c : Change) : Change :=
  match c.kind with
  | .create => { c with kind := .delete, removed := !c.removed }
  | .delete => { c with kind := .create, removed := !c.removed }
  | _ => c

/-- The opposite of the opposite change is the change. -/
@[simp] theorem Change.reverse_reverse (c : Change) : c.reverse.reverse = c := by
  obtain ⟨kind, node, properties, removed⟩ := c
  cases kind <;> simp [reverse]

namespace Document

variable {old new : Document} {c : Change}

/-- What is to be reported from one document to another: creation of what only the new one has, deletion of
what only the old one has, and for nodes of both that are written differently the fields that differ. -/
inductive Reports (old new : Document) : Change → Prop where
  | create {n : Node} (id : NodeId) : old.node? id = none → new.node? id = some n →
    Reports old new { kind := .create, node := id }
  | delete {o : Node} (id : NodeId) : old.node? id = some o → new.node? id = none →
    Reports old new { kind := .delete, node := id, removed := true }
  | differ {o n : Node} (id : NodeId) (properties : List String) : old.node? id = some o →
    new.node? id = some n → o.toJson.same n.toJson = false → properties.Pairwise (· < ·) →
    (∀ field, field ∈ properties ↔ o.Differ n field) →
    Reports old new { kind := .propertyChange, node := id, properties }

section

variable (hold : old.Sound) (hnew : new.Sound)
include hold hnew

/-- A comparison reports just what is to be reported. -/
theorem mem_diff_iff : c ∈ old.diff new ↔ old.Reports new c := by
  rw [diff, List.mem_append, List.mem_filterMap, List.mem_filterMap]
  constructor
  · rintro (⟨n, hn, h⟩ | ⟨o, ho, h⟩)
    · have found := (hnew.lookup n.id n).2 ⟨hn, rfl⟩
      rcases changeOf?_eq_some_iff.1 h with ⟨absent, rfl⟩ | ⟨o, ho, differ, rfl⟩
      · exact .create n.id absent found
      · exact .differ n.id _ ho found differ pairwise_changedFields fun _ => mem_changedFields_iff_differ
    · obtain ⟨absent, rfl⟩ := deletionOf?_eq_some_iff.1 h
      exact .delete o.id ((hold.lookup o.id o).2 ⟨ho, rfl⟩) absent
  · rintro (⟨id, absent, found⟩ | ⟨id, found, absent⟩ | ⟨id, properties, ho, found, differ, ascending, mem⟩)
    · obtain ⟨hn, rfl⟩ := (hnew.lookup _ _).1 found
      exact .inl ⟨_, hn, changeOf?_eq_some_iff.2 (.inl ⟨absent, rfl⟩)⟩
    · obtain ⟨ho, rfl⟩ := (hold.lookup _ _).1 found
      exact .inr ⟨_, ho, deletionOf?_eq_some_iff.2 ⟨absent, rfl⟩⟩
    · obtain ⟨hn, rfl⟩ := (hnew.lookup _ _).1 found
      refine .inl ⟨_, hn, changeOf?_eq_some_iff.2 (.inr ⟨_, ho, differ, ?_⟩)⟩
      rw [eq_changedFields ascending mem]

/-- No two records of a comparison are for one node. -/
theorem nodup_map_node_diff : ((old.diff new).map (·.node)).Nodup := by
  have each {d : Document} (distinct : (d.nodes.map (·.id)).Nodup) {f : Node → Option Change}
      (names : ∀ n c, f n = some c → c.node = n.id) : ((d.nodes.filterMap f).map (·.node)).Nodup := by
    rw [List.Nodup, List.pairwise_map] at distinct ⊢
    rw [List.pairwise_filterMap]
    refine distinct.imp fun {n m} apart c hc c' hc' => ?_
    rw [names n c hc, names m c' hc']
    exact apart
  rw [diff, List.map_append, List.nodup_append]
  refine ⟨each hnew.distinct fun n c h => node_of_changeOf? h,
    each hold.distinct fun o c h => by rw [(deletionOf?_eq_some_iff.1 h).2], ?_⟩
  rintro id hid id' hid' rfl
  obtain ⟨c, hc, rfl⟩ := List.mem_map.1 hid
  obtain ⟨n, hn, h⟩ := List.mem_filterMap.1 hc
  obtain ⟨c', hc', same⟩ := List.mem_map.1 hid'
  obtain ⟨o, ho, h'⟩ := List.mem_filterMap.1 hc'
  obtain ⟨absent, rfl⟩ := deletionOf?_eq_some_iff.1 h'
  rw [show o.id = n.id from same.trans (node_of_changeOf? h), (hnew.lookup n.id n).2 ⟨hn, rfl⟩] at absent
  cases absent

end

/-- For a node that is written differently, the fields that are recorded are to be reported. -/
theorem Reports.of_differ {id : NodeId} {o n : Node} (ho : old.node? id = some o)
    (hn : new.node? id = some n) (differ : o.toJson.same n.toJson = false) :
    old.Reports new { kind := .propertyChange, node := id, properties := changedFields o n } :=
  .differ id _ ho hn differ pairwise_changedFields fun _ => mem_changedFields_iff_differ

/-- What is to be reported the other way round is the opposite. -/
theorem Reports.reverse (h : old.Reports new c) : new.Reports old c.reverse := by
  cases h with
  | create id absent found => exact .delete id found absent
  | delete id found absent => exact .create id absent found
  | differ id properties ho hn differ ascending mem =>
    refine .differ id properties hn ho ?_ ascending fun field => (mem field).trans Node.differ_comm
    rwa [(Node.keysDistinct_toJson _).same_comm (Node.keysDistinct_toJson _)]

/-- Nothing is to be reported exactly if both documents have the same ids and write their nodes the same. -/
theorem reports_nothing_iff : (∀ c, ¬old.Reports new c) ↔
    (∀ id, (old.node? id).isSome = (new.node? id).isSome) ∧
      ∀ id o n, old.node? id = some o → new.node? id = some n → o.toJson.same n.toJson = true := by
  constructor
  · intro nothing
    refine ⟨fun id => ?_, fun id o n ho hn => ?_⟩
    · cases ho : old.node? id with
      | none =>
        cases hn : new.node? id with
        | none => rfl
        | some n => exact absurd (.create id ho hn) (nothing _)
      | some o =>
        cases hn : new.node? id with
        | none => exact absurd (.delete id ho hn) (nothing _)
        | some n => rfl
    · rw [← Bool.not_eq_false]
      exact fun differ => nothing _ (.of_differ ho hn differ)
  · rintro ⟨ids, same⟩ c (⟨id, ho, hn⟩ | ⟨id, ho, hn⟩ | ⟨id, -, ho, hn, differ, -, -⟩)
    · simpa [ho, hn] using ids id
    · simpa [ho, hn] using ids id
    · rw [same id _ _ ho hn] at differ
      cases differ

/-- Comparisons are exact. Between two snapshots that are read, no node has two records. There are records
just for the creation of what only the new one has, the deletion of what only the old one has, and the
nodes of both whose written forms do not say the same, with the fields that are in one of these only or have
different values, in ascending order. So there are no records exactly if the snapshots have the same ids and
their nodes are written the same, and the other way round the records are the same but that creations and
deletions are exchanged. -/
theorem diff_exact {source source' : String} (hold : parse source = .ok old)
    (hnew : parse source' = .ok new) :
    ((old.diff new).map (·.node)).Nodup ∧
      (∀ c, c ∈ old.diff new ↔ old.Reports new c) ∧
      (∀ id o n, old.node? id = some o → new.node? id = some n →
        (o.toJson.same n.toJson = false ↔
          ∃ properties, { kind := .propertyChange, node := id, properties } ∈ old.diff new)) ∧
      (old.diff new = [] ↔ (∀ id, (old.node? id).isSome = (new.node? id).isSome) ∧
        ∀ id o n, old.node? id = some o → new.node? id = some n → o.toJson.same n.toJson = true) ∧
      (new.diff old).Perm ((old.diff new).map Change.reverse) := by
  have hold := sound_of_parse hold
  have hnew := sound_of_parse hnew
  have once := nodup_map_node_diff hold hnew
  have reports (c : Change) : c ∈ old.diff new ↔ old.Reports new c := mem_diff_iff hold hnew
  refine ⟨once, reports, fun id o n ho hn => ⟨fun differ => ?_, ?_⟩, ?_, ?_⟩
  · exact ⟨_, (reports _).2 (.of_differ ho hn differ)⟩
  · rintro ⟨properties, mem⟩
    cases (reports _).1 mem with
    | differ _ _ ho' hn' differ =>
      rw [ho] at ho'
      rw [hn] at hn'
      cases ho'
      cases hn'
      exact differ
  · rw [← reports_nothing_iff, List.eq_nil_iff_forall_not_mem]
    exact forall_congr' fun c => not_congr (reports c)
  · -- Neither list has repetitions, so it is enough that they have the same records.
    have reversed : ((old.diff new).map Change.reverse).Nodup :=
      once.of_map.map (Function.Involutive.injective Change.reverse_reverse)
    refine (List.perm_ext_iff_of_nodup (nodup_map_node_diff hnew hold).of_map reversed).2 fun c => ?_
    rw [mem_diff_iff hnew hold, List.mem_map]
    constructor
    · exact fun h => ⟨c.reverse, (reports _).2 h.reverse, c.reverse_reverse⟩
    · rintro ⟨c, hc, rfl⟩
      exact ((reports c).1 hc).reverse

/-- A text, a layer that is removed, and a member of a set. -/
def sketch : Document :=
  filed
    [{ id := "t", name := "Title", kind := .text },
      { id := "r", name := "Removed", kind := .frame },
      { id := "m", name := "Member", kind := .component
        variantProperties := .ofList [("size", "s"), ("state", "on")] }]

/-- The sketch with the text named anew and tilted, with another layer, and with the assignments of the member
in another order. -/
def revisedSketch : Document :=
  filed
    [{ id := "m", name := "Member", kind := .component
       variantProperties := .ofList [("state", "on"), ("size", "s")] },
      { id := "a", name := "Added", kind := .frame },
      { id := "t", name := "Heading", kind := .text, documentationLinks := ["docs"] }]

/-- The layer that is added, the one that is removed and the text are reported, and the member is not. The other
way round, the layer that was added is removed. -/
theorem diff_exact_revisedSketch :
    { kind := .create, node := "a" } ∈ sketch.diff revisedSketch ∧
      { kind := .delete, node := "r", removed := true } ∈ sketch.diff revisedSketch ∧
      (∃ properties, { kind := .propertyChange, node := "t", properties } ∈ sketch.diff revisedSketch) ∧
      (¬∃ properties, { kind := .propertyChange, node := "m", properties } ∈ sketch.diff revisedSketch) ∧
      { kind := .delete, node := "a", removed := true } ∈ revisedSketch.diff sketch := by
  have read : parse sketch.print = .ok sketch := parse_print (by decide +kernel) (by decide +kernel)
  have revised : parse revisedSketch.print = .ok revisedSketch :=
    parse_print (by decide +kernel) (by decide +kernel)
  obtain ⟨-, reports, differ, -, reversed⟩ := diff_exact read revised
  have created := (reports { kind := .create, node := "a" }).2 (.create "a" rfl rfl)
  refine ⟨created, (reports _).2 (.delete "r" rfl rfl), (differ "t" _ _ rfl rfl).1 (by decide +kernel), ?_,
    reversed.mem_iff.2 (List.mem_map_of_mem created)⟩
  exact fun h => absurd ((differ "m" _ _ rfl rfl).2 h) (by decide +kernel)

end Document
end Handoff
