import Handoff.Proofs.Scene.Store

/-!
# Removing several subtrees

Nodes that are removed one after the other take with them what lies below them. What goes at a time is all
that lies below something that goes, so what stays is listed by the same nodes as before, and it has the
same parent.
-/

namespace Handoff

/-- A node without some of its children. -/
def Node.losing (n : Node) (gone : List NodeId) : Node :=
  { n with children := n.children.filter (!gone.contains ·) }

namespace Document

variable {d e f : Document} {gone later ids : List NodeId} {a b : NodeId}

/-! ## Sound documents as lists of nodes -/

/-- Nodes are placed under their own ids and below the last nodes that list them. -/
theorem Sound.placements_eq (sound : d.Sound) :
    d.placements = d.nodes.map fun n => ⟨n, some n.id, lastParent? d.nodes n.id⟩ :=
  congrArg Document.placements (ofNodes?_eq_ok_iff.1 (sound_iff_linked.1 sound)).2

/-- Sound documents with the same nodes have the same placements. -/
theorem Sound.placements_congr (before : d.Sound) (after : e.Sound) (nodes : e.nodes = d.nodes) :
    e.placements = d.placements := by
  rw [after.placements_eq, before.placements_eq, nodes]

/-- A node of a sound document is found under its id. -/
theorem Sound.node?_of_mem (sound : d.Sound) {n : Node} (h : n ∈ d.nodes) : d.node? n.id = some n :=
  (sound.lookup n.id n).2 ⟨h, rfl⟩

/-- The parent of a node of a sound document is the last node that lists it. -/
theorem Sound.parent?_of_mem (sound : d.Sound) {n : Node} (h : n ∈ d.nodes) :
    d.parent? n.id = (lastParent? d.nodes n.id).bind d.node? := by
  obtain ⟨p, hp, rfl⟩ := node?_eq_some_iff.1 (sound.node?_of_mem h)
  rw [parent?, hp, Option.bind_some, ((sound_iff_linkable.1 sound).2 p (mem_of_place? hp)).2]

/-! ## Losing nodes -/

namespace Loses

/-- Where nothing goes, nothing changes. -/
theorem refl (d : Document) : d.Loses d [] := by
  refine ⟨?_, ?_, rfl, rfl, rfl, rfl⟩ <;> simp

/-- The nodes that stay, without the children that go. -/
theorem nodes_eq (loses : d.Loses e gone) :
    e.nodes = (d.nodes.filter (!gone.contains ·.id)).map (·.losing gone) :=
  loses.nodes

/-- What goes at first and what goes later is gone. -/
theorem trans (first : d.Loses e gone) (second : e.Loses f later) : d.Loses f (gone ++ later) where
  nodes := by
    rw [second.nodes, first.nodes, List.filter_map, List.map_map, List.filter_filter]
    simp [Function.comp_def, List.filter_filter, Bool.and_comm]
  selection := by
    rw [second.selection, first.selection, List.filter_filter]
    simp [Bool.and_comm]
  name := second.name.trans first.name
  collections := second.collections.trans first.collections
  localVariables := second.localVariables.trans first.localVariables
  paintStyles := second.paintStyles.trans first.paintStyles

/-- The nodes that stay are those that are not gone, without the children that are. -/
theorem mem_nodes_iff (loses : d.Loses e gone) {n : Node} :
    n ∈ e.nodes ↔ ∃ m ∈ d.nodes, m.id ∉ gone ∧ m.losing gone = n := by
  rw [loses.nodes_eq, List.mem_map]
  simp only [List.mem_filter, and_assoc, Bool.not_eq_true', List.contains_eq_mem, decide_eq_false_iff_not]

/-- Of the nodes of a kind those stay that are not gone. -/
theorem findAll_eq (loses : d.Loses e gone) (kind : NodeKind) :
    e.findAll kind = (d.findAll kind).filter (!gone.contains ·) := by
  rw [findAll, findAll, loses.nodes_eq, List.filter_map, List.filter_map, List.filter_filter,
    List.filter_filter, List.map_map]
  exact congrArg _ (List.filter_congr fun n _ => Bool.and_comm _ _)

/-- What stays lists what it listed and what stays. -/
theorem lists_iff (loses : d.Loses e gone) (before : d.Sound) (after : e.Sound) :
    e.Lists a b ↔ d.Lists a b ∧ a ∉ gone ∧ b ∉ gone := by
  rw [after.lists_iff, before.lists_iff]
  simp only [loses.mem_nodes_iff]
  constructor
  · rintro ⟨_, ⟨m, hm, stays, rfl⟩, rfl, hb⟩
    obtain ⟨listed, kept⟩ := List.mem_filter.1 hb
    exact ⟨⟨m, hm, rfl, listed⟩, stays, by simpa using kept⟩
  · rintro ⟨⟨m, hm, rfl, listed⟩, stays, kept⟩
    exact ⟨_, ⟨m, hm, stays, rfl⟩, rfl, List.mem_filter.2 ⟨listed, by simpa using kept⟩⟩

/-- If all goes that lies below what goes, then paths to what stays are kept. -/
theorem reflTransGen_iff (loses : d.Loses e gone) (before : d.Sound) (after : e.Sound)
    (downward : ∀ a b, d.Lists a b → a ∈ gone → b ∈ gone) (stays : b ∉ gone) :
    Relation.ReflTransGen e.Lists a b ↔ Relation.ReflTransGen d.Lists a b := by
  have gone_of_path {a c : NodeId} (path : Relation.ReflTransGen d.Lists a c) (h : a ∈ gone) : c ∈ gone := by
    induction path with
    | refl => exact h
    | tail _ step ih => exact downward _ _ step ih
  have part : e.Lists ≤ d.Lists := fun a b h => ((loses.lists_iff before after).1 h).1
  constructor
  · exact Relation.ReflTransGen.mono part a b
  · intro path
    induction path using Relation.ReflTransGen.head_induction_on with
    | refl => exact .refl
    | head step rest ih =>
      have kept := fun h => stays (gone_of_path rest h)
      exact .head ((loses.lists_iff before after).2 ⟨step, fun h => kept (downward _ _ step h), kept⟩) ih

end Loses

/-- Nodes of a sound document that are removed one after the other take with them all that lies below them, and
nothing else, up to the first one that is not there any more. -/
theorem removeNodes_cases (sound : d.Sound) (ids : List NodeId) :
    ∃ e removed rest gone, ids = removed ++ rest ∧
      (∀ x, x ∈ gone ↔ ∃ id ∈ removed, Relation.ReflTransGen d.Lists id x) ∧ d.Loses e gone ∧ e.Sound ∧
      (rest = [] ∧ d.removeNodes ids = (e, .ok ()) ∨ ∃ id later, rest = id :: later ∧ e.contains id = false ∧
        d.removeNodes ids = (e, .error (.nodeNotFound id))) := by
  induction ids generalizing d with
  | nil => exact ⟨d, [], [], [], rfl, by simp, .refl d, sound, .inl ⟨rfl, rfl⟩⟩
  | cons id ids ih =>
    rcases removeNode_cases sound id with ⟨-, gone, d₁, first, sound₁, loses, below⟩ | ⟨missing, failed⟩
    · obtain ⟨e, removed, rest, later, rfl, laterBelow, losesLater, final, done⟩ := ih sound₁
      refine ⟨e, id :: removed, rest, gone ++ later, rfl, fun x => ?_, loses.trans losesLater, final, ?_⟩
      · have downward : ∀ a b, d.Lists a b → a ∈ gone → b ∈ gone := fun a b step ha =>
          (below b).2 (((below a).1 ha).tail step)
        rw [List.mem_append, laterBelow, List.exists_mem_cons_iff]
        by_cases stays : x ∈ gone
        · exact iff_of_true (.inl stays) (.inl ((below x).1 stays))
        · simp only [loses.reflTransGen_iff sound sound₁ downward stays, below]
      · rwa [removeNodes, first]
    · exact ⟨d, [], id :: ids, [], rfl, by simp, .refl d, sound,
        .inr ⟨id, ids, rfl, missing, by rw [removeNodes, failed]⟩⟩

/-- Nodes that are all removed take with them all that lies below them, and nothing else. -/
theorem removeNodes_loses (nested : d.Nested) (h : d.removeNodes ids = (e, .ok ())) :
    ∃ gone, (∀ x, x ∈ gone ↔ ∃ id ∈ ids, Relation.ReflTransGen d.Lists id x) ∧ d.Loses e gone ∧
      e.Nested := by
  have after := nested.removeNodes ids
  rw [h] at after
  obtain ⟨_, removed, rest, gone, rfl, below, loses, -, ⟨rfl, done⟩ | ⟨_, _, -, -, failed⟩⟩ :=
    removeNodes_cases nested.sound ids
  · obtain rfl := congrArg Prod.fst (h.symm.trans done)
    exact ⟨gone, by simpa using below, loses, after⟩
  · rw [h] at failed
    cases failed

/-! ## Places -/

private theorem find?_filter_of_imp {α : Type} {p q : α → Bool} {l : List α}
    (h : ∀ a ∈ l, q a = true → p a = true) : (l.filter p).find? q = l.find? q := by
  induction l with
  | nil => rfl
  | cons a rest ih =>
    have others := ih fun b hb => h b (List.mem_cons_of_mem _ hb)
    cases hp : p a with
    | true => rw [List.filter_cons_of_pos hp, List.find?_cons, List.find?_cons, others]
    | false =>
      have hq : ¬q a = true := fun hq => by simp [h a List.mem_cons_self hq] at hp
      rw [List.filter_cons_of_neg (by simp [hp]), List.find?_cons_of_neg hq, others]

/-- If all goes that lies below what goes, then what stays has the same parent among the nodes that stay. -/
theorem lastParent?_losing (downward : ∀ n ∈ d.nodes, n.id ∈ gone → ∀ c ∈ n.children, c ∈ gone)
    (stays : b ∉ gone) :
    lastParent? ((d.nodes.filter (!gone.contains ·.id)).map (·.losing gone)) b = lastParent? d.nodes b := by
  have lists (n : Node) : b ∈ (n.losing gone).children ↔ b ∈ n.children := by simp [Node.losing, stays]
  rw [lastParent?_map (f := (·.losing gone)) (fun _ => rfl) lists]
  rw [lastParent?, lastParent?, ← List.filter_reverse, find?_filter_of_imp]
  intro n hn lists
  have mem : n ∈ d.nodes := List.mem_reverse.1 hn
  have kept : n.id ∉ gone := fun h => stays (downward n mem h b (by simpa using lists))
  simpa using kept

end Document
end Handoff
