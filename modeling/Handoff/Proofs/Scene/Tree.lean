import Handoff.Component.Target
import Handoff.Scene.DocumentJson
import Mathlib.Data.Fintype.Card
import Mathlib.Data.List.Pairwise
import Mathlib.Logic.Relation

/-!
# Trees of nodes

A snapshot that can be read and lists no child twice is a forest: every node is found under its own id,
every listed child exists, and its parent is the one node that lists it. Without cycles, every node
ranks below the node that lists it, and all ranks are below the number of nodes; so the bounds on walks
never cut a walk short.
-/

namespace Handoff.Document

/-- Whether every node is found under its own id only. -/
def Keyed (d : Document) : Prop := ∀ id n, d.node? id = some n → n.id = id

/-- The document of nodes that are each found under their own id. -/
def filed (nodes : List Node) : Document :=
  { name := "", placements := nodes.map fun n => ⟨n, some n.id, lastParent? nodes n.id⟩ }

/-- Where nodes are filed, every node is found under its own id. -/
theorem keyed_filed (nodes : List Node) : (filed nodes).Keyed := by
  intro id n hn
  obtain ⟨p, hp, rfl⟩ := node?_eq_some_iff.1 hn
  obtain ⟨m, -, rfl⟩ := List.mem_map.1 (mem_of_place? hp)
  exact Option.some.inj (key_of_place? hp)

/-- Whether the node found under an id lists another id as child. -/
def Lists (d : Document) (a b : NodeId) : Prop := ∃ n, d.node? a = some n ∧ b ∈ n.children

/-- A document whose nodes link to itself, where no child is listed twice and nothing lies below
itself. -/
structure TreeShaped (d : Document) : Prop where
  linked : d.ofNodes? d.nodes = .ok d
  once : (d.nodes.flatMap (·.children)).Nodup
  acyclic : ∀ id, ¬ Relation.TransGen d.Lists id id

/-! ## Linked documents -/

/-- Whether nodes can be linked: no two share an id, and every listed child is among them. -/
structure Linkable (nodes : List Node) : Prop where
  distinct : (nodes.map (·.id)).Nodup
  closed : ∀ n ∈ nodes, ∀ c ∈ n.children, c ∈ nodes.map (·.id)

private theorem firstRepeat?_eq_none_iff {seen ids : List NodeId} :
    firstRepeat? seen ids = none ↔ ids.Nodup ∧ ∀ id ∈ ids, id ∉ seen := by
  induction ids generalizing seen with
  | nil => simp [firstRepeat?]
  | cons id rest ih =>
    by_cases hs : id ∈ seen
    · simp [firstRepeat?, hs]
    · simp only [firstRepeat?, List.contains_eq_mem, hs, decide_false, Bool.false_eq_true, if_false,
        Option.map_eq_none_iff, ih, List.nodup_cons, List.mem_cons, forall_eq_or_imp, not_or]
      constructor
      · rintro ⟨nodup, fresh⟩
        exact ⟨⟨fun h => (fresh id h).1 rfl, nodup⟩, not_false, fun k hk => (fresh k hk).2⟩
      · rintro ⟨⟨hid, nodup⟩, -, fresh⟩
        exact ⟨nodup, fun k hk => ⟨fun h => hid (h ▸ hk), fresh k hk⟩⟩

private theorem missingChild?_eq_none_iff {ids : List NodeId} {nodes : List Node} :
    missingChild? ids nodes = none ↔ ∀ n ∈ nodes, ∀ c ∈ n.children, c ∈ ids := by
  induction nodes with
  | nil => simp [missingChild?]
  | cons n rest ih =>
    unfold missingChild?
    cases hf : n.children.find? (fun c => !ids.contains c) with
    | some c =>
      have hc : c ∈ n.children := List.mem_of_find?_eq_some hf
      have gone : c ∉ ids := by simpa using List.find?_some hf
      simp only [reduceCtorEq, false_iff]
      exact fun h => gone (h n List.mem_cons_self c hc)
    | none =>
      have own : ∀ c ∈ n.children, c ∈ ids := fun c hc => by simpa using List.find?_eq_none.1 hf c hc
      simp only [ih, List.mem_cons, forall_eq_or_imp]
      exact ⟨fun h => ⟨own, h⟩, And.right⟩

/-- Linkable nodes link: every node is keyed by its id and has the last node that lists it as parent. -/
theorem relink_of_linkable {d : Document} (h : Linkable d.nodes) :
    d.relink =
      ({ d with placements := d.nodes.map fun n => ⟨n, some n.id, lastParent? d.nodes n.id⟩ },
        .ok ()) := by
  have unique : firstRepeat? [] (d.nodes.map (·.id)) = none :=
    firstRepeat?_eq_none_iff.2 ⟨h.distinct, by simp⟩
  have present : missingChild? (d.nodes.map (·.id)) d.nodes = none :=
    missingChild?_eq_none_iff.2 h.closed
  simp only [relink, unique, present]
  simp only [keyed, nodes, List.map_map]
  rfl

/-- Only linkable nodes link. -/
theorem linkable_of_relink {d e : Document} (h : d.relink = (e, .ok ())) : Linkable d.nodes := by
  simp only [relink] at h
  split at h
  · cases h
  · next unique =>
    split at h
    · cases h
    · next present =>
      exact ⟨(firstRepeat?_eq_none_iff.1 unique).1, missingChild?_eq_none_iff.1 present⟩

/-- The document that nodes link to: its nodes are those nodes, keyed by their ids and linked to the
last node that lists them. Exactly linkable nodes link. -/
theorem ofNodes?_eq_ok_iff {d e : Document} {nodes : List Node} :
    d.ofNodes? nodes = .ok e ↔ Linkable nodes ∧
      e = { d with placements := nodes.map fun n => ⟨n, some n.id, lastParent? nodes n.id⟩ } := by
  let raw : Document := { d with placements := nodes.map fun node => ⟨node, some node.id, none⟩ }
  have hraw : raw.nodes = nodes := by
    show (nodes.map _).map _ = nodes
    rw [List.map_map]
    exact List.map_id nodes
  unfold ofNodes?
  constructor
  · intro h
    dsimp only at h
    split at h
    · next linked heq =>
      have linkable := linkable_of_relink heq
      rw [relink_of_linkable linkable, hraw] at heq
      cases heq
      cases h
      exact ⟨hraw ▸ linkable, rfl⟩
    · cases h
  · rintro ⟨linkable, rfl⟩
    have linked : raw.relink = _ := relink_of_linkable (hraw.symm ▸ linkable)
    rw [hraw] at linked
    dsimp only
    rw [linked]

/-- The document that nodes link to has those nodes. -/
theorem nodes_of_ofNodes? {d e : Document} {nodes : List Node} (h : d.ofNodes? nodes = .ok e) :
    e.nodes = nodes := by
  rw [(ofNodes?_eq_ok_iff.1 h).2]
  show (nodes.map _).map _ = nodes
  rw [List.map_map]
  exact List.map_id nodes

/-- The document that nodes link to is the document of its own nodes. -/
theorem ofNodes?_nodes {d e : Document} {nodes : List Node} (h : d.ofNodes? nodes = .ok e) :
    e.ofNodes? e.nodes = .ok e := by
  rw [nodes_of_ofNodes? h, ← h, (ofNodes?_eq_ok_iff.1 h).2]
  rfl

/-- A snapshot that is read is the document of its own nodes. -/
theorem linked_of_parse {source : String} {d : Document} (h : parse source = .ok d) :
    d.ofNodes? d.nodes = .ok d := by
  unfold parse at h
  split at h
  · unfold ofJson at h
    split at h
    · exact ofNodes?_nodes h
    · cases h
  · cases h

section Linked

variable {d : Document} (linked : d.ofNodes? d.nodes = .ok d)
include linked

private theorem placements_eq :
    d.placements = d.nodes.map fun n => ⟨n, some n.id, lastParent? d.nodes n.id⟩ :=
  congrArg Document.placements (ofNodes?_eq_ok_iff.1 linked).2

/-- In a linked document every placement is keyed by the id of its node. -/
theorem placement_of_mem {p : Placement} (h : p ∈ d.placements) :
    p.node ∈ d.nodes ∧ p.key = some p.node.id ∧ p.parent = lastParent? d.nodes p.node.id := by
  rw [placements_eq linked] at h
  obtain ⟨n, hn, rfl⟩ := List.mem_map.1 h
  exact ⟨hn, rfl, rfl⟩

/-- In a linked document every node is found under its own id. -/
theorem keyed_of_linked : d.Keyed := by
  intro id n h
  obtain ⟨p, hp, rfl⟩ := node?_eq_some_iff.1 h
  have key := (placement_of_mem linked (mem_of_place? hp)).2.1
  rw [key_of_place? hp] at key
  exact (Option.some.inj key).symm

/-- In a linked document a node is found under its id. -/
theorem node?_of_mem {n : Node} (h : n ∈ d.nodes) : d.node? n.id = some n := by
  have found : d.contains n.id = true := by
    rw [contains, place?, List.find?_isSome]
    refine ⟨⟨n, some n.id, lastParent? d.nodes n.id⟩, ?_, by simp⟩
    rw [placements_eq linked]
    exact List.mem_map_of_mem h
  obtain ⟨p, hp⟩ := Option.isSome_iff_exists.1 found
  have hm : d.node? n.id = some p.node := node?_eq_some_iff.2 ⟨p, hp, rfl⟩
  have hpn := (placement_of_mem linked (mem_of_place? hp)).1
  have same : p.node = n := by
    refine List.inj_on_of_nodup_map (ofNodes?_eq_ok_iff.1 linked).1.distinct hpn h ?_
    exact keyed_of_linked linked _ _ hm
  rw [hm, same]

/-- In a linked document listed children exist. -/
theorem exists_child {n : Node} {c : NodeId} (hn : n ∈ d.nodes) (hc : c ∈ n.children) :
    ∃ m, d.node? c = some m := by
  obtain ⟨m, hm, rfl⟩ := List.mem_map.1 ((ofNodes?_eq_ok_iff.1 linked).1.closed n hn c hc)
  exact ⟨m, node?_of_mem linked hm⟩

/-- In a linked document the parent of a node lists it. -/
theorem mem_children_of_parent? {id : NodeId} {p : Node} (h : d.parent? id = some p) :
    p ∈ d.nodes ∧ id ∈ p.children := by
  obtain ⟨parentId, hparent, hp⟩ := Option.bind_eq_some_iff.1 h
  obtain ⟨place, hplace, hlink⟩ := Option.bind_eq_some_iff.1 hparent
  obtain ⟨hmem, hkey, hlast⟩ := placement_of_mem linked (mem_of_place? hplace)
  have hid : place.node.id = id := by
    rw [key_of_place? hplace] at hkey
    exact (Option.some.inj hkey).symm
  rw [hlast, hid] at hlink
  obtain ⟨q, hq, rfl⟩ := Option.map_eq_some_iff.1 hlink
  have hqm : q ∈ d.nodes := by simpa using List.mem_of_find?_eq_some hq
  have hqc : id ∈ q.children := by simpa using List.find?_some hq
  rw [node?_of_mem linked hqm] at hp
  cases hp
  exact ⟨hqm, hqc⟩

end Linked

/-! ## Trees -/

/-- Where every step goes down in rank, no steps lead back. -/
theorem acyclic_of_rank {α : Type} {step : α → α → Prop} (rank : α → Nat)
    (h : ∀ a b, step a b → rank b < rank a) (a : α) : ¬ Relation.TransGen step a a := by
  have below {a b : α} (hab : Relation.TransGen step a b) : rank b < rank a := by
    induction hab with
    | single hl => exact h _ _ hl
    | tail _ hl ih => exact Nat.lt_trans (h _ _ hl) ih
  intro hself
  exact Nat.lt_irrefl _ (below hself)

/-- Steps without a cycle into finitely many things go down in a height, which is below their number for each of
them. -/
theorem exists_height_of_acyclic {α : Type} {step : α → α → Prop} (acyclic : ∀ a, ¬ Relation.TransGen step a a)
    (all : Finset α) (into : ∀ a b, step a b → b ∈ all) :
    ∃ height : α → Nat, (∀ a b, step a b → height b < height a) ∧ (∀ a, height a ≤ all.card) ∧
      ∀ a ∈ all, height a < all.card := by
  classical
  -- The height of a thing counts what lies below it; every step loses at least the next one.
  let below : α → Finset α := fun a => all.filter (Relation.TransGen step a)
  refine ⟨fun a => (below a).card, fun a b hab => ?_, fun a => Finset.card_filter_le _ _, fun a ha => ?_⟩
  · apply Finset.card_lt_card
    rw [Finset.ssubset_iff_of_subset]
    · exact ⟨b, Finset.mem_filter.2 ⟨into a b hab, .single hab⟩, fun self => acyclic b (Finset.mem_filter.1 self).2⟩
    · intro k hk
      obtain ⟨hk, hbk⟩ := Finset.mem_filter.1 hk
      exact Finset.mem_filter.2 ⟨hk, .head hab hbk⟩
  · apply Finset.card_lt_card
    rw [Finset.ssubset_iff_of_subset (Finset.filter_subset _ _)]
    exact ⟨a, ha, fun self => acyclic a (Finset.mem_filter.1 self).2⟩

/-- There are no more ids than nodes. -/
theorem card_ids_le (d : Document) : (d.nodes.map (·.id)).toFinset.card ≤ d.placements.length := by
  refine (List.toFinset_card_le _).trans ?_
  rw [List.length_map, nodes, List.length_map]

/-- In a linked document without cycles nodes rank below the nodes that list them, and ranks are below
the number of nodes. -/
theorem exists_rank_of_acyclic {d : Document} (linked : d.ofNodes? d.nodes = .ok d)
    (acyclic : ∀ id, ¬ Relation.TransGen d.Lists id id) :
    ∃ rank : NodeId → Nat, (∀ a b, d.Lists a b → rank b < rank a) ∧ (∀ id, rank id ≤ d.placements.length) ∧
      ∀ id n, d.node? id = some n → rank id < d.placements.length := by
  have named {id : NodeId} {n : Node} (h : d.node? id = some n) : id ∈ (d.nodes.map (·.id)).toFinset := by
    obtain rfl := keyed_of_linked linked _ _ h
    exact List.mem_toFinset.2 (List.mem_map_of_mem (mem_nodes_of_node? h))
  obtain ⟨rank, lower, bound, below⟩ := exists_height_of_acyclic acyclic _ fun a b ⟨n, hn, hb⟩ => by
    obtain ⟨m, hm⟩ := exists_child linked (mem_nodes_of_node? hn) hb
    exact named hm
  exact ⟨rank, lower, fun id => (bound id).trans d.card_ids_le,
    fun id n hn => Nat.lt_of_lt_of_le (below id (named hn)) d.card_ids_le⟩

/-- A linked document without repeated children is a tree where every listed child ranks below its
node. -/
theorem treeShaped_of_rank {d : Document} (linked : d.ofNodes? d.nodes = .ok d)
    (once : (d.nodes.flatMap (·.children)).Nodup) (rank : NodeId → Nat)
    (h : ∀ n ∈ d.nodes, ∀ c ∈ n.children, rank c < rank n.id) : d.TreeShaped where
  linked := linked
  once := once
  acyclic := by
    apply acyclic_of_rank rank
    rintro a b ⟨n, hn, hb⟩
    rw [← keyed_of_linked linked _ _ hn]
    exact h n (mem_nodes_of_node? hn) b hb

namespace TreeShaped

variable {d : Document} (tree : d.TreeShaped)
include tree

/-- No two nodes list the same child. -/
theorem lister_unique {p q : Node} {c : NodeId} (hp : p ∈ d.nodes) (hq : q ∈ d.nodes)
    (hpc : c ∈ p.children) (hqc : c ∈ q.children) : p = q := by
  by_contra hne
  have apart := (List.nodup_flatMap.1 tree.once).2
  have symmetric : Std.Symm (Function.onFun List.Disjoint (fun n : Node => n.children)) :=
    ⟨fun _ _ h => h.symm⟩
  exact apart.forall hp hq hne hpc hqc

/-- The parent of a node is the node that lists it. -/
theorem parent?_eq_some_iff {id : NodeId} {p : Node} :
    d.parent? id = some p ↔ p ∈ d.nodes ∧ id ∈ p.children := by
  refine ⟨mem_children_of_parent? tree.linked, ?_⟩
  rintro ⟨hp, hc⟩
  obtain ⟨m, hm⟩ := exists_child tree.linked hp hc
  obtain ⟨place, hplace, rfl⟩ := node?_eq_some_iff.1 hm
  have hid := keyed_of_linked tree.linked _ _ hm
  have hlast := (placement_of_mem tree.linked (mem_of_place? hplace)).2.2
  rw [hid] at hlast
  have lister : (d.nodes.reverse.find? fun n => n.children.contains id).isSome = true := by
    rw [List.find?_isSome]
    exact ⟨p, by simpa using hp, by simpa using hc⟩
  obtain ⟨q, hq⟩ := Option.isSome_iff_exists.1 lister
  have hqm : q ∈ d.nodes := by simpa using List.mem_of_find?_eq_some hq
  have hqc : id ∈ q.children := by simpa using List.find?_some hq
  have same := tree.lister_unique hqm hp hqc hc
  rw [parent?, hplace, Option.bind_some, hlast, lastParent?, hq, same, Option.map_some,
    Option.bind_some, node?_of_mem tree.linked hp]

/-- The children of a node are the nodes it lists. -/
theorem mem_children_iff {id : NodeId} {m : Node} :
    m ∈ d.children id ↔ m ∈ d.nodes ∧ d.Lists id m.id := by
  unfold children
  cases hn : d.node? id with
  | none => simp [Lists, hn]
  | some n =>
    simp only [List.mem_filterMap, Lists, hn, Option.some.injEq, exists_eq_left']
    constructor
    · rintro ⟨c, hc, hm⟩
      obtain rfl := keyed_of_linked tree.linked _ _ hm
      exact ⟨mem_nodes_of_node? hm, hc⟩
    · rintro ⟨hm, hc⟩
      exact ⟨m.id, hc, node?_of_mem tree.linked hm⟩

/-- Nodes rank below the nodes that list them, and ranks are below the number of nodes. -/
theorem exists_rank : ∃ rank : NodeId → Nat, (∀ a b, d.Lists a b → rank b < rank a) ∧
    ∀ id n, d.node? id = some n → rank id < d.placements.length := by
  obtain ⟨rank, lower, -, below⟩ := exists_rank_of_acyclic tree.linked tree.acyclic
  exact ⟨rank, lower, below⟩

end TreeShaped

/-! ## Targets -/

/-- Whether a node is shown as a target of its own: a set, or a component that is no member of one. -/
def StandsAlone (d : Document) (n : Node) : Prop :=
  n.kind = .componentSet ∨
    n.kind = .component ∧ ∀ p, d.parent? n.id = some p → p.kind ≠ .componentSet

section

variable {d : Document} (keyed : d.Keyed)
include keyed

/-- Where every node is found under its own id, a target stands alone. -/
theorem standsAlone_of_compileTarget? {id target : NodeId} (h : d.compileTarget? id = some target) :
    ∃ n, d.node? target = some n ∧ d.StandsAlone n := by
  -- An instance hands over to its main component, so the induction is on the bound of that chain.
  have chain (fuel : Nat) (id : NodeId) (h : d.targetFrom fuel id = some target) :
      ∃ n, d.node? target = some n ∧ d.StandsAlone n := by
    induction fuel generalizing id with
    | zero => cases h
    | succ fuel ih =>
      unfold targetFrom at h
      split at h
      · cases h
      · next n hn =>
        obtain rfl := keyed _ _ hn
        split at h
        · next hk =>
          cases h
          exact ⟨n, hn, .inl hk⟩
        · next hk =>
          cases hp : d.parent? n.id with
          | none =>
            rw [hp] at h
            cases h
            refine ⟨n, hn, .inr ⟨hk, ?_⟩⟩
            intro p hparent
            rw [hp] at hparent
            cases hparent
          | some p =>
            rw [hp] at h
            by_cases hset : p.kind = .componentSet
            · simp only [hset, if_true, Option.some.injEq] at h
              subst h
              obtain ⟨parentId, -, hparent⟩ := Option.bind_eq_some_iff.1 hp
              obtain rfl := keyed _ _ hparent
              exact ⟨p, hparent, .inl hset⟩
            · simp only [hset, if_false, Option.some.injEq] at h
              subst h
              refine ⟨n, hn, .inr ⟨hk, ?_⟩⟩
              intro q hq
              rw [hp] at hq
              cases hq
              exact hset
        · split at h
          · cases h
          · next main _ =>
            split at h
            · cases h
            · exact ih main h
        · cases h
  exact chain _ _ h

/-- Where every node is found under its own id, a node that stands alone is its own target. -/
theorem compileTarget?_of_standsAlone {id : NodeId} {n : Node} (hn : d.node? id = some n)
    (h : d.StandsAlone n) : d.compileTarget? id = some id := by
  have hid := keyed _ _ hn
  rcases h with hk | ⟨hk, hp⟩
  · simp [compileTarget?, walkBound, targetFrom, hn, hk, hid]
  · rw [hid] at hp
    cases hparent : d.parent? id with
    | none => simp [compileTarget?, walkBound, targetFrom, hn, hk, hparent, hid]
    | some p => simp [compileTarget?, walkBound, targetFrom, hn, hk, hparent, hp p hparent, hid]

/-- Where every node is found under its own id, the target of a node is its own target. -/
theorem compileTarget?_of_compileTarget? {id target : NodeId}
    (h : d.compileTarget? id = some target) : d.compileTarget? target = some target := by
  obtain ⟨n, hn, alone⟩ := standsAlone_of_compileTarget? keyed h
  exact compileTarget?_of_standsAlone keyed hn alone

end

end Handoff.Document
