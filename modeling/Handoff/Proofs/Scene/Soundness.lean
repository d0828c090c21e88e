import Handoff.Proofs.Scene.Mapping
import Handoff.Proofs.Scene.Tree
import Handoff.Scene.Edit

/-!
# Sound documents

A document stores nodes in order and looks them up by id and by parent link. It is sound if the lookups
say what the stored nodes say: ids are distinct and find their nodes, listed children exist, and the
parent of a node is the last node that lists it. Sound documents are the linked ones, and what is read
from a snapshot is sound. Edits that keep ids and child lists keep soundness, whatever else they change.
-/

namespace Handoff

/-- A node reduced to its id and child list. -/
def Node.outline (n : Node) : Node :=
  { id := n.id, name := "", kind := .unknown, children := n.children }

namespace Document

/-- Whether an id is that of the last node that lists a child. -/
def LastLists (nodes : List Node) (id child : NodeId) : Prop :=
  ∃ before n after, nodes = before ++ n :: after ∧ n.id = id ∧ child ∈ n.children ∧
    ∀ m ∈ after, child ∉ m.children

/-- Whether the ids and parent links of a document are those of its nodes. -/
structure Sound (d : Document) : Prop where
  distinct : (d.nodes.map (·.id)).Nodup
  lookup : ∀ id n, d.node? id = some n ↔ n ∈ d.nodes ∧ n.id = id
  closed : ∀ n ∈ d.nodes, ∀ c ∈ n.children, ∃ m ∈ d.nodes, m.id = c
  parents : ∀ p ∈ d.placements, ∀ id, p.parent = some id ↔ LastLists d.nodes id p.node.id

/-- Whether no node lies below itself. -/
def Acyclic (d : Document) : Prop := ∀ id, ¬ Relation.TransGen d.Lists id id

/-! ## Parents by child lists -/

/-- The parent that linking finds is the last node that lists the child. -/
theorem lastParent?_eq_some_iff {nodes : List Node} {id child : NodeId} :
    lastParent? nodes child = some id ↔ LastLists nodes id child := by
  unfold lastParent? LastLists
  rw [Option.map_eq_some_iff]
  constructor
  · rintro ⟨n, hn, rfl⟩
    obtain ⟨lists, after, before, reversed, others⟩ := List.find?_eq_some_iff_append.1 hn
    refine ⟨before.reverse, n, after.reverse, ?_, rfl, by simpa using lists, ?_⟩
    · simpa using congrArg List.reverse reversed
    · intro m hm
      simpa using others m (List.mem_reverse.1 hm)
  · rintro ⟨before, n, after, rfl, rfl, lists, others⟩
    refine ⟨n, List.find?_eq_some_iff_append.2 ?_, rfl⟩
    refine ⟨by simpa using lists, after.reverse, before.reverse, by simp, ?_⟩
    intro m hm
    simpa using others m (List.mem_reverse.1 hm)

/-- A child that nodes of one id list has that id as parent. -/
theorem lastParent?_eq_some {nodes : List Node} {id child : NodeId} (lister : Node)
    (mem : lister ∈ nodes) (lists : child ∈ lister.children)
    (only : ∀ n ∈ nodes, child ∈ n.children → n.id = id) : lastParent? nodes child = some id := by
  have found : (nodes.reverse.find? fun n => n.children.contains child).isSome = true := by
    rw [List.find?_isSome]
    exact ⟨lister, by simpa using mem, by simpa using lists⟩
  obtain ⟨n, hn⟩ := Option.isSome_iff_exists.1 found
  have hmem : n ∈ nodes := by simpa using List.mem_of_find?_eq_some hn
  have hlists : child ∈ n.children := by simpa using List.find?_some hn
  rw [lastParent?, hn, Option.map_some, only n hmem hlists]

/-- A child that no node lists has no parent. -/
theorem lastParent?_eq_none {nodes : List Node} {child : NodeId}
    (unlisted : ∀ n ∈ nodes, child ∉ n.children) : lastParent? nodes child = none := by
  rw [lastParent?, Option.map_eq_none_iff, List.find?_eq_none]
  intro n hn
  simpa using unlisted n (List.mem_reverse.1 hn)

/-- Changing nodes without touching their ids and what they say about a child leaves its parent. -/
theorem lastParent?_map {nodes : List Node} {f : Node → Node} {child : NodeId}
    (id : ∀ n, (f n).id = n.id) (lists : ∀ n, child ∈ (f n).children ↔ child ∈ n.children) :
    lastParent? (nodes.map f) child = lastParent? nodes child := by
  have same : ((fun n : Node => n.children.contains child) ∘ f) = fun n => n.children.contains child := by
    funext n
    simp [lists n]
  rw [lastParent?, lastParent?, ← List.map_reverse, List.find?_map, same, Option.map_map]
  congr 1
  funext n
  exact id n

/-- A node without children is no parent. -/
theorem lastParent?_concat {nodes : List Node} {n : Node} {child : NodeId} (childless : n.children = []) :
    lastParent? (nodes ++ [n]) child = lastParent? nodes child := by
  simp [lastParent?, childless]

/-! ## Soundness as linking -/

section

variable {d e : Document}

private theorem linked_of_links (linkable : Linkable d.nodes)
    (links : ∀ p ∈ d.placements,
      p.key = some p.node.id ∧ p.parent = lastParent? d.nodes p.node.id) :
    d.ofNodes? d.nodes = .ok d := by
  have placements : d.placements =
      d.nodes.map fun n => ⟨n, some n.id, lastParent? d.nodes n.id⟩ := by
    rw [nodes, List.map_map]
    refine (List.map_id _).symm.trans (List.map_congr_left fun p hp => ?_)
    obtain ⟨key, parent⟩ := links p hp
    show p = ⟨p.node, some p.node.id, lastParent? d.nodes p.node.id⟩
    rw [← key, ← parent]
  exact ofNodes?_eq_ok_iff.2 ⟨linkable, by rw [← placements]⟩

/-- A document is sound if its nodes can be linked and its placements are keyed and linked so. -/
theorem sound_iff_linkable : d.Sound ↔ Linkable d.nodes ∧
    ∀ p ∈ d.placements, p.key = some p.node.id ∧ p.parent = lastParent? d.nodes p.node.id := by
  constructor
  · intro sound
    refine ⟨⟨sound.distinct, fun n hn c hc => List.mem_map.2 (sound.closed n hn c hc)⟩, ?_⟩
    intro p hp
    constructor
    · have hn : p.node ∈ d.nodes := List.mem_map_of_mem hp
      obtain ⟨q, hq, hnode⟩ := node?_eq_some_iff.1 ((sound.lookup p.node.id p.node).2 ⟨hn, rfl⟩)
      have distinct : (d.placements.map fun p => p.node.id).Nodup := by
        have := sound.distinct
        rwa [nodes, List.map_map] at this
      -- The placement that is found under the id of a node is that of the node, since ids are distinct.
      have same : q = p :=
        List.inj_on_of_nodup_map distinct (mem_of_place? hq) hp (congrArg Node.id hnode)
      rw [← same, key_of_place? hq, same]
    · apply Option.ext
      intro id
      rw [sound.parents p hp, lastParent?_eq_some_iff]
  · rintro ⟨linkable, linked⟩
    have self := linked_of_links linkable linked
    refine ⟨linkable.distinct, ?_, ?_, ?_⟩
    · intro id n
      refine ⟨fun h => ⟨mem_nodes_of_node? h, keyed_of_linked self id n h⟩, ?_⟩
      rintro ⟨hn, rfl⟩
      exact node?_of_mem self hn
    · exact fun n hn c hc => List.mem_map.1 (linkable.closed n hn c hc)
    · intro p hp id
      rw [(linked p hp).2, lastParent?_eq_some_iff]

/-- The sound documents are those that their own nodes link to. -/
theorem sound_iff_linked : d.Sound ↔ d.ofNodes? d.nodes = .ok d := by
  constructor
  · intro sound
    obtain ⟨linkable, linked⟩ := sound_iff_linkable.1 sound
    exact linked_of_links linkable linked
  · intro linked
    refine sound_iff_linkable.2 ⟨(ofNodes?_eq_ok_iff.1 linked).1, fun p hp => ?_⟩
    exact (placement_of_mem linked hp).2

/-! ## Snapshots -/

/-- What reading a snapshot yields: the content, linked. It fails exactly if there is no content, an id
is repeated or a child is missing. -/
theorem parse_eq_ok_iff {source : String} : parse source = .ok d ↔
    ∃ j raw, Json.parse? source = some j ∧ content? j = some (raw, d.nodes) ∧ raw.ofNodes? d.nodes = .ok d := by
  unfold parse ofJson
  constructor
  · intro h
    split at h
    · next j hj =>
      split at h
      · next raw nodes content =>
        have same : d.nodes = nodes := nodes_of_ofNodes? h
        exact ⟨j, raw, hj, by rw [content, same], by rw [same, h]⟩
      · cases h
    · cases h
  · rintro ⟨j, raw, hj, content, linked⟩
    simp only [hj, content, linked]

/-- A snapshot that is read is sound. -/
theorem sound_of_parse {source : String} (h : parse source = .ok d) : d.Sound :=
  sound_iff_linked.2 (linked_of_parse h)

/-! ## Edits in place -/

/-- A document reduced to the ids, child lists and links of its nodes. -/
def outline (d : Document) : Document :=
  { name := "", placements := (d.mapNodes Node.outline).placements }

private theorem nodes_outline : d.outline.nodes = d.nodes.map Node.outline :=
  nodes_mapNodes

private theorem linkable_outline : Linkable d.outline.nodes ↔ Linkable d.nodes := by
  have ids : (d.nodes.map Node.outline).map (·.id) = d.nodes.map (·.id) := List.map_map
  have children : (∀ n ∈ d.nodes.map Node.outline, ∀ c ∈ n.children, c ∈ d.nodes.map (·.id)) ↔
      ∀ n ∈ d.nodes, ∀ c ∈ n.children, c ∈ d.nodes.map (·.id) := List.forall_mem_map
  rw [nodes_outline]
  constructor
  · rintro ⟨distinct, closed⟩
    rw [ids] at distinct closed
    exact ⟨distinct, children.1 closed⟩
  · rintro ⟨distinct, closed⟩
    refine ⟨?_, ?_⟩ <;> rw [ids]
    · exact distinct
    · exact children.2 closed

/-- Whether a document is sound can be read off its outline. -/
theorem sound_outline : d.outline.Sound ↔ d.Sound := by
  have parents (c : NodeId) : lastParent? d.outline.nodes c = lastParent? d.nodes c := by
    rw [nodes_outline]
    exact lastParent?_map (fun _ => rfl) (fun _ => Iff.rfl)
  have links : (∀ p ∈ d.outline.placements,
        p.key = some p.node.id ∧ p.parent = lastParent? d.outline.nodes p.node.id) ↔
      ∀ p ∈ d.placements, p.key = some p.node.id ∧ p.parent = lastParent? d.nodes p.node.id := by
    simp only [parents]
    exact List.forall_mem_map
  rw [sound_iff_linkable, sound_iff_linkable, linkable_outline, links]

/-- Which node lists which can be read off the outline. -/
theorem lists_outline {a b : NodeId} : d.outline.Lists a b ↔ d.Lists a b := by
  have found : d.outline.node? a = (d.node? a).map Node.outline := node?_mapNodes
  unfold Lists
  rw [found]
  cases d.node? a <;> simp [Node.outline]

/-- Documents with the same outline are sound alike. -/
theorem Sound.of_outline (sound : d.Sound) (h : e.outline = d.outline) : e.Sound := by
  rw [← sound_outline, h, sound_outline]
  exact sound

/-- Where nodes list no more than they did, no cycle appears. -/
theorem Acyclic.mono (acyclic : d.Acyclic) (h : ∀ a b, e.Lists a b → d.Lists a b) : e.Acyclic :=
  fun id below => acyclic id (Relation.TransGen.mono h id id below)

/-- Documents with the same outline are acyclic alike. -/
theorem Acyclic.of_outline (acyclic : d.Acyclic) (h : e.outline = d.outline) : e.Acyclic := by
  refine acyclic.mono fun a b lists => ?_
  rwa [← lists_outline, ← h, lists_outline]

/-- Changing a node without touching its id and child list keeps the outline. -/
theorem outline_modifyNode {id : NodeId} {f : Node → Node} (keeps : ∀ n, (f n).outline = n.outline) :
    (d.modifyNode id f).outline = d.outline := by
  rw [outline, mapNodes_modifyNode keeps, outline]

/-- Documents that differ in plugin data only have the same outline. -/
theorem outline_of_bare_eq (h : e.bare = d.bare) : e.outline = d.outline := by
  have through (d : Document) : d.outline = d.bare.outline := by
    unfold outline bare mapNodes
    rw [List.map_map]
    rfl
  rw [through e, h, ← through d]

end

end Document
end Handoff
