import Handoff.Proofs.Scene.IconsPage

/-!
# Imports that fail

An import takes effect node by node, and nothing takes a step back where a later one fails. So a failed import
leaves a document in which some icons pages have given way to the first of the new nodes. It fails because an
icons page went together with one that it lay below, or because the id of a node to be added is taken.
-/

namespace Handoff.Document

variable {d e cleared : Document} {set : String} {icons done : List (String × String)} {icon : String × String}
  {added : List Node} {removed gone : List NodeId} {err : CompileError}

/-- Where an import stops: which icons pages it has removed by then, which nodes it has added, and the error that
it reports. -/
inductive Stops (d e : Document) (set : String) (icons : List (String × String)) :
    List NodeId → List Node → CompileError → Prop where
  /-- An icons page went with one before it. -/
  | nested {removed later : List NodeId} {above page : NodeId} :
    d.iconsPageIds = removed ++ page :: later → above ∈ removed →
    Relation.ReflTransGen d.Lists above page → Stops d e set icons removed [] (.nodeNotFound page)
  /-- The id of the new page is taken. -/
  | page : e.contains (iconsPage set icons).id = true →
    Stops d e set icons d.iconsPageIds [] (.duplicateNode (iconsPage set icons).id)
  /-- The id of the component of an icon is taken. -/
  | component {done later : List (String × String)} {icon : String × String} :
    icons = done ++ icon :: later → e.contains (iconRoot set icon).id = true →
    Stops d e set icons d.iconsPageIds (iconNodes set done) (.duplicateNode (iconRoot set icon).id)
  /-- The id of the drawing of an icon is taken. -/
  | drawing {done later : List (String × String)} {icon : String × String} :
    icons = done ++ icon :: later → e.contains (iconDrawing set icon).id = true →
    Stops d e set icons d.iconsPageIds (pendingNodes set done icon) (.duplicateNode (iconDrawing set icon).id)

private theorem Extends.refl (sound : cleared.Sound) : cleared.Extends [] cleared :=
  ⟨sound, rfl, (List.append_nil _).symm⟩

private theorem mem_pending_of_mem_children {n : Node} {c : NodeId} (h : n ∈ pendingNodes set done icon)
    (hc : c ∈ n.children) : c ∈ (pendingNodes set done icon).map (·.id) := by
  simp only [pendingNodes, List.mem_cons, List.mem_append, List.mem_flatMap, List.not_mem_nil, or_false] at h
  rcases h with rfl | ⟨other, hother, rfl | rfl⟩ | rfl
  · obtain ⟨other, hother, rfl⟩ := List.mem_map.1 hc
    rcases List.mem_append.1 hother with hother | hother
    · exact List.mem_map_of_mem (List.mem_cons_of_mem _ (List.mem_append_left _
        (List.mem_flatMap.2 ⟨other, hother, List.mem_cons_self⟩)))
    · obtain rfl := List.mem_singleton.1 hother
      exact List.mem_map.2 ⟨_, List.mem_cons_of_mem _ List.mem_concat_self, rfl⟩
  · obtain rfl := List.mem_singleton.1 hc
    exact List.mem_map_of_mem (List.mem_cons_of_mem _ (List.mem_append_left _
      (List.mem_flatMap.2 ⟨other, hother, List.mem_cons_of_mem _ List.mem_cons_self⟩)))
  · cases hc
  · cases hc

/-- An import that fails has removed icons pages and added nodes up to where it stops. -/
private theorem importIcons_stops (sound : d.Sound) {icons : OrderedMap String}
    (h : d.importIcons set icons = (e, .error err)) : ∃ removed gone cleared added,
      (∀ x, x ∈ gone ↔ ∃ page ∈ removed, Relation.ReflTransGen d.Lists page x) ∧ d.Loses cleared gone ∧
      cleared.Extends added e ∧ (∀ n ∈ added, ∀ c ∈ n.children, c ∈ added.map (·.id)) ∧
      d.Stops e set icons.entries removed added err := by
  obtain ⟨cleared, removed, rest, gone, split, below, loses, after,
    ⟨rfl, done⟩ | ⟨page, later, rfl, missing, failed⟩⟩ :=
    removeNodes_cases sound d.iconsPageIds
  · rw [List.append_nil] at split
    subst split
    rw [importIcons, ← iconsPageIds, done] at h
    dsimp only at h
    split at h
    · next reason refused =>
      cases h
      rcases addNode_eq_error_iff.1 refused with ⟨taken, rfl⟩ | ⟨-, _, orphan, -⟩
      · exact ⟨_, gone, e, [], below, loses, .refl after, by simp, .page taken⟩
      · cases orphan
    · next paged added =>
      have page : Appends cleared set [] paged := Extends.of_addNode after rfl added
      split at h
      · cases h
      · next filled reason stopped =>
        cases h
        cases page.filling stopped with
        | component split appends taken =>
          exact ⟨_, gone, cleared, _, below, loses, appends, fun _ h _ => mem_iconIds_of_mem_children h,
            .component split taken⟩
        | drawing split pending taken =>
          exact ⟨_, gone, cleared, _, below, loses, pending, fun _ h _ => mem_pending_of_mem_children h,
            .drawing split taken⟩
  · rw [importIcons, ← iconsPageIds, failed] at h
    cases h
    -- The page was there before, so it is gone.
    have listed : page ∈ d.iconsPageIds := split ▸ List.mem_append_right _ List.mem_cons_self
    obtain ⟨n, hn, rfl⟩ := List.mem_map.1 listed
    have went : n.id ∈ gone := by
      by_contra stays
      have kept : n.losing gone ∈ e.nodes :=
        loses.mem_nodes_iff.2 ⟨n, (List.mem_filter.1 (List.mem_filter.1 hn).1).1, stays, rfl⟩
      exact Bool.false_ne_true (missing.symm.trans (after.contains_of_mem (n := n.losing gone) kept))
    obtain ⟨above, hab, path⟩ := (below n.id).1 went
    exact ⟨removed, gone, e, [], below, loses, .refl after, by simp, .nested split hab path⟩

private theorem Stops.removed_eq_nil (stops : d.Stops e set icons removed added err)
    (none : d.iconsPageIds = []) : removed = [] := by
  cases stops with
  | nested split => simp [none] at split
  | page => exact none
  | component => exact none
  | drawing => exact none

/-- A failed import is not rolled back, but it has done nothing else than the steps before the one that failed. The
document is sound; what was at or below the icons pages that were removed has given way to the nodes that were
added, and all else has kept its order, its parents and its fields, but that child lists and selection have lost
what is gone. Without an icons page to remove, it is unchanged exactly if no node was added. -/
theorem failed_import_keeps (sound : d.Sound) (set : String) (icons : OrderedMap String)
    (h : d.importIcons set icons = (e, .error err)) :
    e.Sound ∧ ∃ removed gone added, d.Stops e set icons.entries removed added err ∧
      (∀ x, x ∈ gone ↔ ∃ page ∈ removed, Relation.ReflTransGen d.Lists page x) ∧
      d.Exchanges e gone added ∧ (d.iconsPageIds = [] → (e = d ↔ added = [])) := by
  obtain ⟨removed, gone, cleared, added, below, loses, grown, own, stops⟩ := importIcons_stops sound h
  have downward : ∀ a b, d.Lists a b → a ∈ gone → b ∈ gone := by
    intro a b step ha
    obtain ⟨page, hpage, path⟩ := (below a).1 ha
    exact (below b).2 ⟨page, hpage, path.tail step⟩
  refine ⟨grown.sound, removed, gone, added, stops, below, grown.exchanges sound loses downward own, fun none => ?_⟩
  have nothing : gone = [] := by
    rw [List.eq_nil_iff_forall_not_mem]
    intro x hx
    obtain ⟨page, hpage, -⟩ := (below x).1 hx
    rw [stops.removed_eq_nil none] at hpage
    cases hpage
  subst nothing
  have nodes : e.nodes = d.nodes ++ added := by
    rw [grown.nodes, loses.nodes_eq]
    simp [Node.losing]
  constructor
  · rintro rfl
    exact List.self_eq_append_right.1 nodes
  · rintro rfl
    have selection : cleared.selection = d.selection := by simp [loses.selection]
    refine eq_of_sound sound grown.sound (by rw [nodes, List.append_nil]) ?_
    rw [grown.rest, ← selection, ← loses.name, ← loses.collections, ← loses.localVariables, ← loses.paintStyles]

/-- A document with an icons page, whose icon is selected, and with a frame under an id for an icon. -/
def takenIcon : Document :=
  { filed [{ id := "o", name := "Icons", kind := .page, children := ["x"] },
      { id := "x", name := "ph:star", kind := .component },
      { id := "icon:ph:moon", name := "Night", kind := .frame }] with selection := ["x"] }

/-- Two icons to import, of which the second one has a taken id. -/
def starAndMoon : OrderedMap String := .ofList [("star", "<svg>1</svg>"), ("moon", "<svg>2</svg>")]

private theorem importIcons_takenIcon :
    (takenIcon.importIcons "ph" starAndMoon).2 = .error (.duplicateNode "icon:ph:moon") := by decide +kernel

/-- The import of the second icon fails, and the old page stays replaced by one with the first icon. -/
theorem failed_import_keeps_takenIcon : ∃ e,
    takenIcon.importIcons "ph" starAndMoon = (e, .error (.duplicateNode "icon:ph:moon")) ∧ e.Sound ∧
      e.nodes.map (·.id) = ["icon:ph:moon", "icons:ph", "icon:ph:star", "icon:ph:star:vector"] ∧
      e.selection = [] ∧ ∃ removed gone added,
        takenIcon.Stops e "ph" starAndMoon.entries removed added (.duplicateNode "icon:ph:moon") ∧
        takenIcon.Exchanges e gone added := by
  have sound : takenIcon.Sound := sound_iff_linked.2 (by decide +kernel)
  have left : (takenIcon.importIcons "ph" starAndMoon).1.nodes.map (·.id) =
        ["icon:ph:moon", "icons:ph", "icon:ph:star", "icon:ph:star:vector"] ∧
      (takenIcon.importIcons "ph" starAndMoon).1.selection = [] := by decide +kernel
  have failed : takenIcon.importIcons "ph" starAndMoon =
      ((takenIcon.importIcons "ph" starAndMoon).1, .error (.duplicateNode "icon:ph:moon")) :=
    Prod.ext rfl importIcons_takenIcon
  obtain ⟨after, removed, gone, added, stops, -, exchanges, -⟩ :=
    failed_import_keeps sound "ph" starAndMoon failed
  exact ⟨_, failed, after, left.1, left.2, removed, gone, added, stops, exchanges⟩

/-- A failed import of a sound document can leave another document. -/
theorem failed_import_changes_takenIcon : takenIcon.Sound ∧ ∃ e err,
    takenIcon.importIcons "ph" starAndMoon = (e, .error err) ∧ e ≠ takenIcon := by
  refine ⟨sound_iff_linked.2 (by decide +kernel), _, _, Prod.ext rfl importIcons_takenIcon, ?_⟩
  decide +kernel

end Handoff.Document
