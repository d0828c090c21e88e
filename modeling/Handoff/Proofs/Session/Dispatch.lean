import Handoff.Proofs.Ordered.Set
import Handoff.Session.Basic

/-!
# Which components changes ask to compile

A change record is an edit if it tells of more than the data that tools keep on nodes. The components
that changes ask to compile are the owners of edited nodes, each once and in the order of the records.
Only edits whose record names plugin data next to other fields are passed over.
-/

namespace Handoff

namespace Change

variable {c : Change}

/-- Whether a record names plugin data and nothing else. -/
def NamesPluginDataOnly (c : Change) : Prop :=
  pluginDataField ∈ c.properties ∧ ∀ field ∈ c.properties, field = pluginDataField

/-- Whether a record names plugin data next to other fields. -/
def NamesPluginDataToo (c : Change) : Prop :=
  c.kind = .propertyChange ∧ pluginDataField ∈ c.properties ∧
    ∃ field ∈ c.properties, field ≠ pluginDataField

/-- Whether a record tells of a node that is new or has changed in more than plugin data, and is still
there. -/
def IsEdit (c : Change) : Prop :=
  (c.kind = .create ∨ c.kind = .propertyChange ∧ ¬ c.NamesPluginDataOnly) ∧ c.removed = false

private theorem not_namesPluginDataOnly_iff :
    ¬ c.NamesPluginDataOnly ↔
      pluginDataField ∉ c.properties ∨ ∃ field ∈ c.properties, field ≠ pluginDataField := by
  unfold NamesPluginDataOnly
  rw [not_and_or]
  simp only [not_forall, exists_prop]

/-- A record asks for compilation if it is an edit that does not name plugin data. -/
theorem isRelevant_iff : c.isRelevant = true ↔ c.IsEdit ∧ ¬ c.NamesPluginDataToo := by
  obtain ⟨kind, node, properties, removed⟩ := c
  cases kind with
  | create => simp [isRelevant, IsEdit, NamesPluginDataToo]
  | propertyChange =>
    rw [IsEdit, not_namesPluginDataOnly_iff]
    by_cases named : pluginDataField ∈ properties
    · simp [isRelevant, NamesPluginDataToo, named]
      tauto
    · simp [isRelevant, NamesPluginDataToo, named]
  | _ => simp [isRelevant, IsEdit]

end Change

namespace Document

variable {d : Document} {changes : List Change} {target : NodeId}

/-- The target of a record is the owner of the node that it names. -/
theorem changedTarget?_eq_some_iff {c : Change} :
    d.changedTarget? c = some target ↔
      c.isRelevant = true ∧ d.contains c.node = true ∧ d.owningTarget? c.node = some target := by
  unfold changedTarget?
  rw [← and_assoc, ← Bool.and_eq_true]
  split
  · next h => simp [h]
  · next h => simp [h]

/-- The components that changes ask to compile are those that own a node of the document of which an
edit is recorded in a record that does not name plugin data. Each is listed once, and they are listed in
the order of the first records that ask for them. -/
theorem updatedTargets_of_changes (d : Document) (changes : List Change) :
    (∀ target, target ∈ (d.updatedTargets changes).elems ↔
      ∃ c ∈ changes, c.IsEdit ∧ ¬ c.NamesPluginDataToo ∧ d.contains c.node = true ∧
        d.owningTarget? c.node = some target) ∧
    (d.updatedTargets changes).elems.Nodup ∧
    (d.updatedTargets changes).elems.Pairwise fun a b =>
      changes.findIdx (fun c => d.changedTarget? c = some a) <
        changes.findIdx (fun c => d.changedTarget? c = some b) := by
  refine ⟨fun target => ?_, OrderedSet.nodup _, OrderedSet.pairwise_findIdx_ofList _ _⟩
  rw [updatedTargets, OrderedSet.mem_ofList, List.mem_filterMap]
  simp only [changedTarget?_eq_some_iff, Change.isRelevant_iff, and_assoc]

/-- A document with one component. -/
def cardDocument : Document :=
  { name := "", placements := [⟨{ id := "c", name := "Card", kind := .component }, some "c", none⟩] }

/-- A rename of a component is lost if the record of it names plugin data, too: the component owns an
edited node and is not compiled. -/
theorem updatedTargets_loses_rename_beside_pluginData :
    ¬ ∀ (d : Document) (changes : List Change) (target : NodeId),
      target ∈ (d.updatedTargets changes).elems ↔
        ∃ c ∈ changes, c.IsEdit ∧ d.contains c.node = true ∧ d.owningTarget? c.node = some target := by
  intro h
  let rename : Change :=
    { kind := .propertyChange, node := "c", properties := ["name", pluginDataField] }
  have edit : rename.IsEdit := by
    refine ⟨.inr ⟨rfl, fun only => ?_⟩, rfl⟩
    exact absurd (only.2 "name" (by decide)) (by decide)
  have owned : cardDocument.contains "c" = true ∧ cardDocument.owningTarget? "c" = some "c" := by
    decide +kernel
  have asked := (h cardDocument [rename] "c").2 ⟨rename, List.mem_singleton_self _, edit, owned⟩
  have none : (cardDocument.updatedTargets [rename]).elems = [] := by decide +kernel
  rw [none] at asked
  cases asked

end Document
end Handoff
