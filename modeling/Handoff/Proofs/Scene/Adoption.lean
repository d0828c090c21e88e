import Handoff.Proofs.Bundle.PluginData
import Handoff.Proofs.Scene.Soundness

/-!
# Plugin data of a previous snapshot

A snapshot takes over plugin data node by node, not value by value. A node without any gets all that the
previous snapshot has for it; a node that carries some keeps just that. So a value of the previous snapshot
reaches every node that may take it, except those on which another tool, or another key, has left something.
-/

namespace Handoff

/-- A node with the plugin data that it has in a previous snapshot, if it has none. -/
def Node.adopting (previous : Document) (n : Node) : Node :=
  if n.pluginData.isEmpty then
    { n with pluginData := ((previous.node? n.id).map Node.pluginData).getD n.pluginData }
  else n

/-- A node that takes over plugin data keeps its id. -/
theorem Node.id_adopting (previous : Document) (n : Node) : (n.adopting previous).id = n.id := by
  unfold adopting
  split <;> rfl

/-- A node without plugin data has no value anywhere. -/
theorem Node.pluginValue?_of_isEmpty {n : Node} (h : n.pluginData.isEmpty = true)
    (namespaceName key : String) : n.pluginValue? namespaceName key = none := by
  have none : n.pluginData.get? namespaceName = none := by
    rw [SortedMap.get?, List.isEmpty_iff.1 h]
    rfl
  rw [pluginValue?, none, Option.bind_none]

namespace Document

variable {d previous : Document} {id : NodeId} {n old : Node}

/-- Taking over plugin data changes every node in its place. -/
theorem adoptPluginData_eq (d previous : Document) :
    d.adoptPluginData previous = d.mapNodes (Node.adopting previous) := by
  unfold adoptPluginData mapNodes Node.adopting
  congr 1
  apply List.map_congr_left
  intro p _
  split
  · cases previous.node? p.node.id <;> rfl
  · rfl

/-- Nodes are found where they were. -/
theorem node?_adoptPluginData :
    (d.adoptPluginData previous).node? id = (d.node? id).map (Node.adopting previous) := by
  rw [adoptPluginData_eq, node?_mapNodes]

/-- A node that the previous snapshot lacks stays as it is. -/
theorem adopting_of_missing (h : previous.node? n.id = none) : n.adopting previous = n := by
  unfold Node.adopting
  split
  · rw [h]
    rfl
  · rfl

/-- A node that the previous snapshot has gets all of its plugin data there, or keeps all of its own. -/
theorem adopting_of_found (h : previous.node? n.id = some old) :
    n.adopting previous = if n.pluginData.isEmpty then { n with pluginData := old.pluginData } else n := by
  rw [Node.adopting, h]
  rfl

/-- The value that a node ends up with is its own or else the previous one, unless it has none, the previous
snapshot has one, and the node carries other data. -/
private theorem pluginValue?_adopting_eq_or_iff (h : previous.node? n.id = some old)
    {namespaceName key : String} :
    (n.adopting previous).pluginValue? namespaceName key =
        (n.pluginValue? namespaceName key).or (old.pluginValue? namespaceName key) ↔
      (n.pluginData.isEmpty = false → n.pluginValue? namespaceName key = none →
        old.pluginValue? namespaceName key = none) := by
  rw [adopting_of_found h]
  cases empty : n.pluginData.isEmpty with
  | true =>
    rw [if_pos rfl, Node.pluginValue?_of_isEmpty empty, Option.none_or]
    exact ⟨fun _ => nofun, fun _ => rfl⟩
  | false =>
    rw [if_neg Bool.false_ne_true]
    cases own : n.pluginValue? namespaceName key with
    | none => simp [eq_comm]
    | some value => simp

/-- Taking over plugin data is all or nothing for a node. Nothing but plugin data changes. A node that the
previous snapshot lacks stays as it is; of the others, those without plugin data get all that the previous
snapshot has for them, and those with some keep just that. So at a place of cached bundles a node ends up with
its own value, or else with the previous one, exactly if it is not one that carries data elsewhere only while
the previous snapshot has a value there. -/
theorem adopted_value_iff (sound : d.Sound) (previous : Document) (place : CacheSettings) :
    (d.adoptPluginData previous).bare = d.bare ∧
      (∀ id, previous.node? id = none → (d.adoptPluginData previous).node? id = d.node? id) ∧
      ∀ id n old, d.node? id = some n → previous.node? id = some old →
        (d.adoptPluginData previous).node? id =
            some (if n.pluginData.isEmpty then { n with pluginData := old.pluginData } else n) ∧
          ((d.adoptPluginData previous).pluginValue? id place.namespaceName place.key =
              (d.pluginValue? id place.namespaceName place.key).or
                (previous.pluginValue? id place.namespaceName place.key) ↔
            (n.pluginData.isEmpty = false → d.pluginValue? id place.namespaceName place.key = none →
              previous.pluginValue? id place.namespaceName place.key = none)) := by
  have named {id : NodeId} {n : Node} (h : d.node? id = some n) : n.id = id := ((sound.lookup id n).1 h).2
  refine ⟨bare_adoptPluginData previous, fun id missing => ?_, fun id n old found before => ?_⟩
  · rw [node?_adoptPluginData]
    cases found : d.node? id with
    | none => rfl
    | some n => rw [Option.map_some, adopting_of_missing (named found ▸ missing)]
  · have before' : previous.node? n.id = some old := named found ▸ before
    have adopted : (d.adoptPluginData previous).node? id = some (n.adopting previous) := by
      rw [node?_adoptPluginData, found, Option.map_some]
    refine ⟨by rw [adopted, adopting_of_found before'], ?_⟩
    simp only [pluginValue?, adopted, found, before, Option.bind_some]
    exact pluginValue?_adopting_eq_or_iff before'

/-! ## Badges -/

/-- The plugin data with one value. -/
def oneValue (namespaceName key value : String) : PluginData :=
  SortedMap.empty.insert namespaceName (SortedMap.empty.insert key value)

/-- Badges with cached bundles. -/
def cachedBadges : Document :=
  filed
    [{ id := "b", name := "Badge", kind := .component, pluginData := oneValue "scenec" "data" "old badge" },
      { id := "c", name := "Chip", kind := .component, pluginData := oneValue "scenec" "data" "old chip" },
      { id := "t", name := "Tag", kind := .component, pluginData := oneValue "scenec" "data" "old tag" }]

/-- The badges as they are read again: the first without plugin data, the second with a bundle of its own, and
the third with a note of another tool. A label is new. -/
def notedBadges : Document :=
  filed
    [{ id := "b", name := "Badge", kind := .component },
      { id := "c", name := "Chip", kind := .component, pluginData := oneValue "scenec" "data" "new chip" },
      { id := "t", name := "Tag", kind := .component, pluginData := oneValue "notes" "author" "me" },
      { id := "l", name := "Label", kind := .text }]

/-- The badge without plugin data gets its bundle back, and the one with a bundle keeps it. -/
theorem adopted_value_notedBadges :
    notedBadges.Sound ∧
      (notedBadges.adoptPluginData cachedBadges).bare = notedBadges.bare ∧
      (notedBadges.adoptPluginData cachedBadges).pluginValue? "b" "scenec" "data" = some "old badge" ∧
      (notedBadges.adoptPluginData cachedBadges).pluginValue? "c" "scenec" "data" = some "new chip" := by
  have sound : notedBadges.Sound := sound_iff_linked.2 (by decide +kernel)
  obtain ⟨bare, -, values⟩ := adopted_value_iff sound cachedBadges {}
  have value (id : NodeId) (n old : Node) (found : notedBadges.node? id = some n)
      (before : cachedBadges.node? id = some old)
      (able : n.pluginData.isEmpty = false → notedBadges.pluginValue? id "scenec" "data" = none →
        cachedBadges.pluginValue? id "scenec" "data" = none) :
      (notedBadges.adoptPluginData cachedBadges).pluginValue? id "scenec" "data" =
        (notedBadges.pluginValue? id "scenec" "data").or (cachedBadges.pluginValue? id "scenec" "data") :=
    (values id n old found before).2.2 able
  refine ⟨sound, bare, ?_, ?_⟩
  · exact value "b" _ _ rfl rfl (by decide +kernel)
  · exact value "c" _ _ rfl rfl (by decide +kernel)

/-- The badge with the note loses its bundle: it has no value of its own and the previous snapshot has one,
but it ends up without. -/
theorem adoption_loses_bundle_beside_note :
    notedBadges.Sound ∧ cachedBadges.Sound ∧
      notedBadges.pluginValue? "t" "scenec" "data" = none ∧
      cachedBadges.pluginValue? "t" "scenec" "data" = some "old tag" ∧
      (notedBadges.adoptPluginData cachedBadges).pluginValue? "t" "scenec" "data" = none :=
  ⟨sound_iff_linked.2 (by decide +kernel), sound_iff_linked.2 (by decide +kernel), by decide +kernel,
    by decide +kernel, by decide +kernel⟩

end Document
end Handoff
