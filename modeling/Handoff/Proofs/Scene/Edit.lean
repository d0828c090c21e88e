import Handoff.Proofs.Scene.Subtree

/-!
# Edits of sound documents

Adding a node without children keeps a sound document sound, and so does removing a subtree; neither
closes a cycle. Removal takes exactly the node and what lies below it, and keeps everything else in its
order. An edit of a sound document that fails leaves it as it was.
-/

namespace Handoff.Document

variable {d e : Document}

/-- In a sound document the children of an id are those that its node lists. -/
theorem Sound.lists_iff (sound : d.Sound) {a b : NodeId} :
    d.Lists a b ↔ ∃ n ∈ d.nodes, n.id = a ∧ b ∈ n.children := by
  simp only [Lists, sound.lookup, and_assoc]

/-- In a sound document a node is found under its id. -/
theorem Sound.contains_of_mem (sound : d.Sound) {n : Node} (h : n ∈ d.nodes) : d.contains n.id = true := by
  obtain ⟨p, hp, -⟩ := node?_eq_some_iff.1 ((sound.lookup n.id n).2 ⟨h, rfl⟩)
  exact Option.isSome_iff_exists.2 ⟨p, hp⟩

/-- In a sound document an id that finds nothing is that of no node. -/
theorem Sound.not_mem_of_contains (sound : d.Sound) {id : NodeId} (h : d.contains id = false) {n : Node}
    (hn : n ∈ d.nodes) : n.id ≠ id := by
  rintro rfl
  exact Bool.false_ne_true (h.symm.trans (sound.contains_of_mem hn))

/-- In a sound document an id that finds a node is that of a node. -/
theorem Sound.exists_of_contains (sound : d.Sound) {id : NodeId} (h : d.contains id = true) :
    ∃ n ∈ d.nodes, n.id = id := by
  obtain ⟨p, hp⟩ := Option.isSome_iff_exists.1 h
  have := (sound.lookup id p.node).1 (node?_eq_some_iff.2 ⟨p, hp, rfl⟩)
  exact ⟨p.node, this⟩

/-- A sound document where every listed child ranks below its node has no cycles. -/
theorem Acyclic.of_rank (sound : d.Sound) (rank : NodeId → Nat)
    (h : ∀ n ∈ d.nodes, ∀ c ∈ n.children, rank c < rank n.id) : d.Acyclic := by
  refine acyclic_of_rank rank fun a b lists => ?_
  obtain ⟨n, hn, rfl, hb⟩ := sound.lists_iff.1 lists
  exact h n hn b hb

/-! ## Adding nodes -/

/-- A node that has adopted a child if it is the parent named. -/
def adopt (parent : Option NodeId) (child : NodeId) (n : Node) : Node :=
  if parent = some n.id then { n with children := n.children ++ [child] } else n

@[simp] theorem id_adopt {parent : Option NodeId} {child : NodeId} {n : Node} :
    (adopt parent child n).id = n.id := by
  unfold adopt
  split <;> rfl

/-- A node lists what it listed, and the child that it has adopted. -/
theorem mem_children_adopt {parent : Option NodeId} {child c : NodeId} {n : Node} :
    c ∈ (adopt parent child n).children ↔ c ∈ n.children ∨ parent = some n.id ∧ c = child := by
  unfold adopt
  split <;> simp_all

/-- What adding a node does to a sound document: the parent adopts it, and it comes last. -/
theorem placements_addNode (sound : d.Sound) {node : Node} {parent : Option NodeId}
    (h : d.addNode node parent = .ok e) :
    d.contains node.id = false ∧ (∀ q, parent = some q → d.contains q = true) ∧
      e.placements = d.placements.map (fun p => { p with node := adopt parent node.id p.node }) ++
        [⟨node, some node.id, parent⟩] := by
  unfold addNode at h
  split at h
  · cases h
  · next fresh =>
    have fresh : d.contains node.id = false := by simpa using fresh
    cases parent with
    | none =>
      cases h
      refine ⟨fresh, by simp, ?_⟩
      simp [adopt]
    | some q =>
      by_cases found : d.contains q = true
      · simp only [found, if_true, Except.ok.injEq] at h
        subst h
        refine ⟨fresh, by simpa using found, ?_⟩
        show (d.modifyNode q _).placements ++ _ = _
        congr 1
        refine List.map_congr_left fun p hp => ?_
        have key := ((sound_iff_linkable.1 sound).2 p hp).1
        by_cases hq : q = p.node.id
        · simp [key, adopt, hq]
        · simp [key, adopt, hq, Ne.symm hq]
          rw [← key]
      · simp [found] at h

/-- Adding a node without children keeps a document sound. -/
theorem Sound.addNode (sound : d.Sound) {node : Node} {parent : Option NodeId}
    (childless : node.children = []) (h : d.addNode node parent = .ok e) : e.Sound := by
  obtain ⟨fresh, found, placements⟩ := placements_addNode sound h
  obtain ⟨linkable, links⟩ := sound_iff_linkable.1 sound
  have nodes : e.nodes = d.nodes.map (adopt parent node.id) ++ [node] := by
    simp only [Document.nodes, placements, List.map_append, List.map_map, List.map_cons, List.map_nil]
    rfl
  have ids : e.nodes.map (·.id) = d.nodes.map (·.id) ++ [node.id] := by
    simp [nodes, Function.comp_def]
  have other {n : Node} (hn : n ∈ d.nodes) : n.id ≠ node.id := sound.not_mem_of_contains fresh hn
  -- Nobody listed the new id, since listed children exist.
  have unlisted : ∀ n ∈ d.nodes, node.id ∉ n.children := by
    intro n hn hc
    obtain ⟨m, hm, hid⟩ := sound.closed n hn _ hc
    exact other hm hid
  have old {c : NodeId} (hc : c ≠ node.id) : lastParent? e.nodes c = lastParent? d.nodes c := by
    rw [nodes, lastParent?_concat childless]
    refine lastParent?_map (fun _ => id_adopt) fun n => ?_
    simp [mem_children_adopt, hc]
  have new : lastParent? e.nodes node.id = parent := by
    rw [nodes, lastParent?_concat childless]
    cases parent with
    | none => exact lastParent?_eq_none (by simpa [mem_children_adopt] using unlisted)
    | some q =>
      obtain ⟨lister, hl, rfl⟩ := sound.exists_of_contains (found q rfl)
      refine lastParent?_eq_some (adopt (some lister.id) node.id lister) (List.mem_map_of_mem hl)
        (mem_children_adopt.2 (.inr ⟨rfl, rfl⟩)) ?_
      intro n hn hc
      obtain ⟨m, hm, rfl⟩ := List.mem_map.1 hn
      rcases mem_children_adopt.1 hc with hc | ⟨hq, -⟩
      · exact absurd hc (unlisted m hm)
      · rw [id_adopt, Option.some.inj hq]
  refine sound_iff_linkable.2 ⟨⟨?_, ?_⟩, ?_⟩
  · rw [ids, List.nodup_append]
    refine ⟨linkable.distinct, List.nodup_singleton _, ?_⟩
    simpa using fun n hn => other hn
  · intro n hn c hc
    rw [ids, List.mem_append]
    rw [nodes, List.mem_append] at hn
    rcases hn with hn | hn
    · obtain ⟨m, hm, rfl⟩ := List.mem_map.1 hn
      rcases mem_children_adopt.1 hc with hc | ⟨-, rfl⟩
      · exact .inl (linkable.closed m hm c hc)
      · exact .inr List.mem_cons_self
    · obtain rfl := List.mem_singleton.1 hn
      rw [childless] at hc
      cases hc
  · intro p hp
    rw [placements, List.mem_append] at hp
    rcases hp with hp | hp
    · obtain ⟨q, hq, rfl⟩ := List.mem_map.1 hp
      obtain ⟨key, link⟩ := links q hq
      refine ⟨by simpa using key, ?_⟩
      show q.parent = lastParent? e.nodes (adopt parent node.id q.node).id
      rw [id_adopt, old (other (List.mem_map_of_mem hq)), link]
    · obtain rfl := List.mem_singleton.1 hp
      exact ⟨rfl, new.symm⟩

/-- Adding a node without children closes no cycle. -/
theorem Acyclic.addNode (acyclic : d.Acyclic) (sound : d.Sound) {node : Node} {parent : Option NodeId}
    (childless : node.children = []) (h : d.addNode node parent = .ok e) : e.Acyclic := by
  have after := sound.addNode childless h
  obtain ⟨fresh, -, placements⟩ := placements_addNode sound h
  have lists {a b : NodeId} (hab : e.Lists a b) : a ≠ node.id ∧ (d.Lists a b ∨ b = node.id) := by
    obtain ⟨n, hn, rfl, hb⟩ := after.lists_iff.1 hab
    obtain ⟨p, hp, rfl⟩ := List.mem_map.1 hn
    rw [placements, List.mem_append] at hp
    rcases hp with hp | hp
    · obtain ⟨q, hq, rfl⟩ := List.mem_map.1 hp
      have hq : q.node ∈ d.nodes := List.mem_map_of_mem hq
      refine ⟨by simpa using sound.not_mem_of_contains fresh hq, ?_⟩
      rcases mem_children_adopt.1 hb with hb | ⟨-, rfl⟩
      · exact .inl (sound.lists_iff.2 ⟨q.node, hq, by simp, hb⟩)
      · exact .inr rfl
    · obtain rfl := List.mem_singleton.1 hp
      simp [childless] at hb
  -- The new node lists nothing, so a path to another node is an old one.
  have old {a b : NodeId} (path : Relation.TransGen e.Lists a b) :
      Relation.TransGen d.Lists a b ∨ b = node.id := by
    induction path with
    | single step => exact (lists step).2.imp_left .single
    | tail _ step ih =>
      obtain ⟨leaves, step⟩ := lists step
      rcases ih with path | last
      · exact step.imp_left path.tail
      · exact absurd last leaves
  intro id cycle
  rcases old cycle with cycle | rfl
  · exact acyclic id cycle
  · obtain ⟨b, step, -⟩ := Relation.TransGen.head'_iff.1 cycle
    exact (lists step).1 rfl

/-! ## Removing subtrees -/

/-- A document without a list of nodes: the others stay as they were and in their order, except that
child lists and selection lose what is gone. -/
structure Loses (d e : Document) (gone : List NodeId) : Prop where
  nodes : e.nodes = (d.nodes.filter (!gone.contains ·.id)).map fun n =>
    { n with children := n.children.filter (!gone.contains ·) }
  selection : e.selection = d.selection.filter (!gone.contains ·)
  name : e.name = d.name
  collections : e.collections = d.collections
  localVariables : e.localVariables = d.localVariables
  paintStyles : e.paintStyles = d.paintStyles

section

variable {ids : List NodeId}

private theorem nodes_without : (d.without ids).nodes =
    (d.nodes.filter (!ids.contains ·.id)).map fun n =>
      { n with children := n.children.filter (!ids.contains ·) } := by
  simp only [nodes, without, List.map_map, List.filter_map]
  rfl

private theorem linkable_without (linkable : Linkable d.nodes) : Linkable (d.without ids).nodes := by
  have kept : (d.without ids).nodes.map (·.id) = (d.nodes.filter (!ids.contains ·.id)).map (·.id) := by
    rw [nodes_without, List.map_map]
    rfl
  refine ⟨?_, ?_⟩
  · rw [kept]
    exact linkable.distinct.sublist (List.filter_sublist.map _)
  · intro n hn c hc
    rw [kept]
    rw [nodes_without] at hn
    obtain ⟨m, hm, rfl⟩ := List.mem_map.1 hn
    obtain ⟨hc, stays⟩ := List.mem_filter.1 hc
    obtain ⟨child, hchild, rfl⟩ := List.mem_map.1 (linkable.closed m (List.mem_of_mem_filter hm) c hc)
    exact List.mem_map_of_mem (List.mem_filter.2 ⟨hchild, stays⟩)

/-- What is left of a sound document links again: it is sound, and has lost the nodes taken out. -/
theorem relink_without (sound : d.Sound) :
    ∃ e, (d.without ids).relink = (e, .ok ()) ∧ e.Sound ∧ d.Loses e ids := by
  have linkable : Linkable (d.without ids).nodes := linkable_without (sound_iff_linkable.1 sound).1
  refine ⟨_, relink_of_linkable linkable, ?_⟩
  have nodes : ({ d.without ids with placements := (d.without ids).nodes.map fun n =>
      ⟨n, some n.id, lastParent? (d.without ids).nodes n.id⟩ } : Document).nodes =
        (d.without ids).nodes := by
    show ((d.without ids).nodes.map _).map _ = _
    rw [List.map_map]
    exact List.map_id _
  constructor
  · refine sound_iff_linkable.2 ⟨nodes.symm ▸ linkable, ?_⟩
    rw [nodes]
    intro p hp
    obtain ⟨n, hn, rfl⟩ := List.mem_map.1 hp
    exact ⟨rfl, rfl⟩
  · exact ⟨nodes.trans nodes_without, rfl, rfl, rfl, rfl, rfl⟩

/-- Nodes that are left list no more than they did. -/
theorem Loses.lists (loses : d.Loses e ids) (before : d.Sound) (after : e.Sound) {a b : NodeId}
    (h : e.Lists a b) : d.Lists a b := by
  obtain ⟨n, hn, rfl, hb⟩ := after.lists_iff.1 h
  rw [loses.nodes] at hn
  obtain ⟨m, hm, rfl⟩ := List.mem_map.1 hn
  exact before.lists_iff.2 ⟨m, List.mem_of_mem_filter hm, rfl, List.mem_of_mem_filter hb⟩

end

/-- Removing a node from a sound document takes out its subtree, if there is one. -/
theorem removeNode_of_subtree (sound : d.Sound) {id : NodeId} {ids : List NodeId}
    (h : d.subtree id = .ok ids) :
    ∃ e, d.removeNode id = (e, .ok ()) ∧ e.Sound ∧ d.Loses e ids := by
  obtain ⟨e, linked, after, loses⟩ := relink_without sound
  refine ⟨e, ?_, after, loses⟩
  simp only [removeNode, h, linked]

/-- Removing a node from a sound document takes out its subtree, or changes nothing if there is no such node. -/
theorem removeNode_cases (sound : d.Sound) (id : NodeId) :
    (d.contains id = true ∧ ∃ gone e, d.removeNode id = (e, .ok ()) ∧ e.Sound ∧ d.Loses e gone ∧
        ∀ x, x ∈ gone ↔ Relation.ReflTransGen d.Lists id x) ∨
      d.contains id = false ∧ d.removeNode id = (d, .error (.nodeNotFound id)) := by
  cases found : d.contains id with
  | true =>
    obtain ⟨gone, hs, below⟩ := subtree_of_contains sound found
    obtain ⟨e, ok, after, loses⟩ := removeNode_of_subtree sound hs
    exact .inl ⟨rfl, gone, e, ok, after, loses, below⟩
  | false => exact .inr ⟨rfl, by simp only [removeNode, subtree_of_missing found]⟩

/-- A failing removal leaves a sound document unchanged. -/
theorem unchanged_of_removeNode (sound : d.Sound) {id : NodeId} {err : CompileError}
    (h : d.removeNode id = (e, .error err)) : e = d := by
  rcases removeNode_cases sound id with ⟨-, _, _, ok, -⟩ | ⟨-, failed⟩
  · rw [ok] at h
    cases h
  · rw [failed] at h
    cases h
    rfl

/-- Removal keeps a sound document without cycles so. -/
theorem removeNode_keeps (sound : d.Sound) (acyclic : d.Acyclic) (id : NodeId) :
    (d.removeNode id).1.Sound ∧ (d.removeNode id).1.Acyclic := by
  rcases removeNode_cases sound id with ⟨-, _, e, ok, after, loses, -⟩ | ⟨-, failed⟩
  · rw [ok]
    exact ⟨after, acyclic.mono fun _ _ => loses.lists sound after⟩
  · rw [failed]
    exact ⟨sound, acyclic⟩

/-- Removal succeeds on a sound document exactly for the nodes that it has. -/
theorem exists_removeNode_iff (sound : d.Sound) {id : NodeId} :
    (∃ e, d.removeNode id = (e, .ok ())) ↔ d.contains id = true := by
  rcases removeNode_cases sound id with ⟨found, _, e, ok, -⟩ | ⟨missing, failed⟩
  · exact iff_of_true ⟨e, ok⟩ found
  · simp [missing, failed]

/-- A successful removal takes exactly the node and what lies below it. -/
theorem loses_of_removeNode (sound : d.Sound) {id : NodeId} (h : d.removeNode id = (e, .ok ())) :
    ∃ gone, (∀ x, x ∈ gone ↔ Relation.ReflTransGen d.Lists id x) ∧ d.Loses e gone := by
  rcases removeNode_cases sound id with ⟨-, gone, e, ok, -, loses, below⟩ | ⟨-, failed⟩
  · obtain rfl := congrArg Prod.fst (ok.symm.trans h)
    exact ⟨gone, below, loses⟩
  · rw [failed] at h
    cases h

end Handoff.Document
