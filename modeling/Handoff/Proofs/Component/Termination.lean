import Handoff.Proofs.Component.Reach
import Handoff.Proofs.Scene.Snapshot
import Handoff.Proofs.Scene.Store

/-!
# Walks end

No walk keeps a record of where it has been. In a sound document without cycles it need not: every parent link
leads up to a node that lists the one below, and every walk downwards follows child lists, so no walk comes back to
a node while it is still above or below it. What is shared by several nodes may be walked several times, but each
time to an end. Only the chain from an instance to its main component follows other links, and ends if these have
no cycle either.
-/

namespace Handoff.Document

variable {d : Document} {id a b : NodeId} {n : Node}

/-! ## Walks as steps -/

/-- The nodes above an id, the nearest first. -/
inductive ParentChain (d : Document) : NodeId → List Node → Prop where
  | top {id : NodeId} : d.parent? id = none → ParentChain d id []
  | up {id : NodeId} {p : Node} {above : List Node} : d.parent? id = some p → ParentChain d p.id above →
    ParentChain d id (p :: above)

/-- The loop that looks for a node of some sort upwards: the node to look at, the number of parent steps from it,
and the node that is found. -/
inductive Climbs (d : Document) (stop : Node → Bool) : Option Node → Nat → Option Node → Prop where
  | top : Climbs d stop none 0 none
  | found {n : Node} : stop n = true → Climbs d stop (some n) 0 (some n)
  | on {n : Node} {k : Nat} {result : Option Node} : stop n = false → Climbs d stop (d.parent? n.id) k result →
    Climbs d stop (some n) (k + 1) result

/-- The loop of a removal: the stack of ids, the top one first, and all ids that are taken from it in turn. What is
taken from the stack leaves its children there, the last one on top. -/
inductive Drains (d : Document) : List NodeId → List NodeId → Prop where
  | done : Drains d [] []
  | pop {id : NodeId} {n : Node} {stack popped : List NodeId} : d.node? id = some n →
    Drains d (n.children.reverse ++ stack) popped → Drains d (id :: stack) (id :: popped)

/-- Whether the style walk below one id calls itself below another. -/
def StylesGoOn (d : Document) (a b : NodeId) : Prop :=
  ∃ n ∈ d.children a, isSkipped n = false ∧ n.kind ≠ .text ∧ n.id = b

/-- Whether no walk along children comes back. -/
def Descends (d : Document) : Prop :=
  ∀ id, ¬ Relation.TransGen (fun a b => ∃ c ∈ d.children a, c.id = b) id id

/-- Whether an instance hands the question for its target over to another node. -/
def HandsOver (d : Document) (a b : NodeId) : Prop :=
  ∃ n, d.node? a = some n ∧ n.kind = .componentInstance ∧ n.mainComponent = some b ∧ b ≠ a

/-- How the target of an id is found: the number of times it is handed over, and what it is. -/
inductive Resolves (d : Document) : NodeId → Nat → Option NodeId → Prop where
  | missing {id : NodeId} : d.node? id = none → Resolves d id 0 none
  | set {id : NodeId} {n : Node} : d.node? id = some n → n.kind = .componentSet → Resolves d id 0 (some n.id)
  | member {id : NodeId} {n p : Node} : d.node? id = some n → n.kind = .component → d.parent? id = some p →
    p.kind = .componentSet → Resolves d id 0 (some p.id)
  | component {id : NodeId} {n : Node} : d.node? id = some n → n.kind = .component →
    (∀ p, d.parent? id = some p → p.kind ≠ .componentSet) → Resolves d id 0 (some n.id)
  | loneInstance {id : NodeId} {n : Node} : d.node? id = some n → n.kind = .componentInstance →
    n.mainComponent = none ∨ n.mainComponent = some id → Resolves d id 0 none
  | handOver {id main : NodeId} {k : Nat} {target : Option NodeId} : d.HandsOver id main →
    Resolves d main k target → Resolves d id (k + 1) target
  | other {id : NodeId} {n : Node} : d.node? id = some n → n.kind ≠ .componentSet → n.kind ≠ .component →
    n.kind ≠ .componentInstance → Resolves d id 0 none

/-- Whether the walks of a document end. -/
structure AllWalksEnd (d : Document) : Prop where
  /-- No node is above itself, nor twice above another. -/
  parents : ∀ id, d.ParentChain id (d.ancestors id) ∧ (id :: (d.ancestors id).map (·.id)).Nodup
  /-- With the first parent step that finds the node to begin with there are as many steps as nodes at most. -/
  ancestorOfKind : ∀ id kind, ∃ k ≤ d.nodes.length - 1,
    d.Climbs (·.kind == kind) (d.parent? id) k (d.ancestorOfKind? id kind)
  page : ∀ id, ∃ k ≤ d.nodes.length - 1, d.Climbs (·.kind == .page) (d.parent? id) k (d.pageOf? id)
  owner : ∀ id, ∃ k ≤ d.nodes.length, ∃ owner, d.Climbs (fun n => ownsSubtree n.kind) (d.node? id) k owner ∧
    d.owningTarget? id = owner.bind fun n => d.compileTarget? n.id
  removal : ∀ id, d.contains id = true → ∃ ids, d.Drains [id] ids ∧ d.removeNode id = (d.without ids).relink
  missing : ∀ id, d.contains id = false → d.removeNode id = (d, .error (.nodeNotFound id))
  /-- Walks that call themselves, by the ids below which they are called, each call made in the one before. -/
  extraction : ∀ calls : List NodeId, calls.IsChain d.GoesOn → calls.length ≤ d.nodes.length + 1
  styles : ∀ calls : List NodeId, calls.IsChain d.StylesGoOn → calls.length ≤ d.nodes.length + 1
  extracted : ∀ fuel ≥ d.walkBound, ∀ n s, d.visit fuel n s = d.visit d.walkBound n s
  collected : ∀ fuel ≥ d.walkBound, ∀ id styles,
    d.collectStyles fuel id styles = d.collectStyles d.walkBound id styles
  target : (∀ id, ¬ Relation.TransGen d.HandsOver id id) →
    ∀ id, ∃ k ≤ d.nodes.length, d.Resolves id k (d.compileTarget? id)

/-! ## Upwards -/

namespace ParentChain

variable {above : List Node}

/-- What is above an id lists it, or lists what lists it, and so on. -/
theorem transGen (linked : d.ofNodes? d.nodes = .ok d) (chain : d.ParentChain id above) :
    ∀ p ∈ above, p ∈ d.nodes ∧ Relation.TransGen d.Lists p.id id := by
  induction chain with
  | top => exact fun _ mem => absurd mem List.not_mem_nil
  | @up id p above parent _ ih =>
    obtain ⟨mem, lists⟩ := mem_children_of_parent? linked parent
    have step : d.Lists p.id id := ⟨p, node?_of_mem linked mem, lists⟩
    intro q hq
    rcases List.mem_cons.1 hq with rfl | hq
    · exact ⟨mem, .single step⟩
    · exact ⟨(ih q hq).1, (ih q hq).2.tail step⟩

/-- No node is above itself, nor twice above another. -/
theorem nodup (linked : d.ofNodes? d.nodes = .ok d) (acyclic : d.Acyclic) (chain : d.ParentChain id above) :
    (id :: above.map (·.id)).Nodup := by
  have apart {id : NodeId} {above : List Node} (chain : d.ParentChain id above) : id ∉ above.map (·.id) := by
    intro again
    obtain ⟨p, hp, rfl⟩ := List.mem_map.1 again
    exact acyclic p.id (chain.transGen linked p hp).2
  induction chain with
  | top => simp
  | up parent rest ih => exact List.nodup_cons.2 ⟨apart (.up parent rest), ih⟩

/-- There are fewer nodes above an id than there are nodes. -/
theorem length_le (linked : d.ofNodes? d.nodes = .ok d) (acyclic : d.Acyclic) (chain : d.ParentChain id above) :
    above.length ≤ d.nodes.length - 1 := by
  cases above with
  | nil => exact Nat.zero_le _
  | cons p above =>
    have members : id :: (p :: above).map (·.id) ⊆ d.nodes.map (·.id) := by
      intro q hq
      rcases List.mem_cons.1 hq with rfl | hq
      · cases chain with
        | up parent _ =>
          obtain ⟨mem, lists⟩ := mem_children_of_parent? linked parent
          exact (ofNodes?_eq_ok_iff.1 linked).1.closed p mem q lists
      · obtain ⟨m, hm, rfl⟩ := List.mem_map.1 hq
        exact List.mem_map_of_mem (chain.transGen linked m hm).1
    have few := (List.subperm_of_subset (chain.nodup linked acyclic) members).length_le
    simp only [List.length_cons, List.length_map] at few ⊢
    omega

/-- The loop that looks upwards goes along what is above. -/
theorem climbs (chain : d.ParentChain id above) (stop : Node → Bool) :
    ∃ k ≤ above.length, d.Climbs stop (d.parent? id) k (above.find? stop) := by
  induction chain with
  | top none => exact ⟨0, Nat.le_refl _, none ▸ .top⟩
  | @up id p above parent _ ih =>
    rw [parent]
    cases here : stop p with
    | true => exact ⟨0, Nat.zero_le _, by simpa [here] using .found here⟩
    | false =>
      obtain ⟨k, few, steps⟩ := ih
      exact ⟨k + 1, by simpa using few, by simpa [here] using .on here steps⟩

end ParentChain

private theorem owningTarget?_eq (d : Document) (id : NodeId) : d.owningTarget? id =
    ((d.node? id).bind fun n => (n :: d.ancestors n.id).find? fun m => ownsSubtree m.kind).bind
      fun owner => d.compileTarget? owner.id := by
  unfold owningTarget?
  cases d.node? id with
  | none => rfl
  | some n =>
    dsimp only [Option.bind_some]
    cases (n :: d.ancestors n.id).find? fun m => ownsSubtree m.kind <;> rfl

/-- Children whose worklists empty are taken from the stack one after the other, with what lies below them. -/
private theorem drains_children {children : List NodeId} {lists : List (List NodeId)}
    (each : children.Forall₂ (fun c ids => ∀ stack popped, d.Drains stack popped →
      d.Drains (c :: stack) (ids ++ popped)) lists) :
    ∀ stack popped, d.Drains stack popped → d.Drains (children ++ stack) (lists.flatten ++ popped) := by
  induction each with
  | nil => exact fun _ _ rest => rest
  | cons drains _ ih =>
    intro stack popped rest
    rw [List.flatten_cons, List.append_assoc]
    exact drains _ _ (ih stack popped rest)

namespace Nested

variable (nested : d.Nested)
include nested

private theorem linked : d.ofNodes? d.nodes = .ok d := sound_iff_linked.1 nested.sound

/-- The ancestors of a node are all nodes above it. -/
theorem parentChain (id : NodeId) : d.ParentChain id (d.ancestors id) := by
  have linked := nested.linked
  obtain ⟨rank, lower, -, below⟩ := exists_rank_of_acyclic linked nested.acyclic
  -- Every step up gains rank, so the fuel need only make up for what is missing to the highest one.
  have chain (fuel : Nat) (id : NodeId) (enough : d.placements.length - rank id < fuel) :
      d.ParentChain id (d.ancestorsFrom fuel id) := by
    induction fuel generalizing id with
    | zero => exact absurd enough (Nat.not_lt_zero _)
    | succ fuel ih =>
      unfold ancestorsFrom
      split
      · next p parent =>
        obtain ⟨mem, lists⟩ := mem_children_of_parent? linked parent
        have found := node?_of_mem linked mem
        have higher := lower p.id id ⟨p, found, lists⟩
        have bound := below p.id p found
        exact .up parent (ih p.id (by omega))
      · next none => exact .top none
  exact chain d.walkBound id (Nat.lt_succ_of_le (Nat.sub_le _ _))

/-- The loop that looks for an ancestor of a kind takes fewer steps from the first parent than there are nodes. -/
theorem climbs_ancestorOfKind? (id : NodeId) (kind : NodeKind) : ∃ k ≤ d.nodes.length - 1,
    d.Climbs (·.kind == kind) (d.parent? id) k (d.ancestorOfKind? id kind) := by
  have chain := nested.parentChain id
  obtain ⟨k, few, steps⟩ := chain.climbs (·.kind == kind)
  exact ⟨k, few.trans (chain.length_le nested.linked nested.acyclic), steps⟩

/-- The loop that looks for the owner of a node takes no more steps than there are nodes. -/
theorem climbs_owningTarget? (id : NodeId) : ∃ k ≤ d.nodes.length, ∃ owner,
    d.Climbs (fun n => ownsSubtree n.kind) (d.node? id) k owner ∧
      d.owningTarget? id = owner.bind fun n => d.compileTarget? n.id := by
  rw [owningTarget?_eq]
  cases found : d.node? id with
  | none => exact ⟨0, Nat.zero_le _, none, .top, rfl⟩
  | some n =>
    refine (?_ : ∃ k ≤ _, d.Climbs _ _ k _).imp fun k climbs => ⟨climbs.1, _, climbs.2, rfl⟩
    have chain := nested.parentChain n.id
    obtain ⟨k, few, steps⟩ := chain.climbs fun n => ownsSubtree n.kind
    have bound := few.trans (chain.length_le nested.linked nested.acyclic)
    have some : 0 < d.nodes.length := List.length_pos_of_mem (mem_nodes_of_node? found)
    cases owns : ownsSubtree n.kind with
    | true => exact ⟨0, Nat.zero_le _, by simpa [owns] using .found owns⟩
    | false => exact ⟨k + 1, by omega, by simpa [owns] using .on owns steps⟩

/-! ## Downwards -/

/-- The worklist of a removal empties, and what has been taken from it is the subtree. -/
theorem drains_subtree (contains : d.contains id = true) : ∃ ids, d.Drains [id] ids ∧ d.subtree id = .ok ids := by
  have linked := nested.linked
  obtain ⟨rank, lower, -, below⟩ := exists_rank_of_acyclic linked nested.acyclic
  -- What the recursion lists below a node, the worklist pops before it comes back to what lay on the stack.
  have each (fuel : Nat) (id : NodeId) (n : Node) (found : d.node? id = some n) (deep : rank id < fuel) :
      ∃ ids, d.subtreeFrom fuel id = .ok ids ∧
        ∀ stack popped, d.Drains stack popped → d.Drains (id :: stack) (ids ++ popped) := by
    induction fuel generalizing id n with
    | zero => exact absurd deep (Nat.not_lt_zero _)
    | succ fuel ih =>
      have children : ∀ c ∈ n.children.reverse, ∃ ids, d.subtreeFrom fuel c = .ok ids ∧
          ∀ stack popped, d.Drains stack popped → d.Drains (c :: stack) (ids ++ popped) := by
        intro c hc
        have listed := List.mem_reverse.1 hc
        obtain ⟨m, hm⟩ := exists_child linked (mem_nodes_of_node? found) listed
        have deeper := lower id c ⟨n, found, listed⟩
        exact ih c m hm (by omega)
      obtain ⟨lists, ok, drains⟩ := exists_mapM_ok children
      exact ⟨id :: lists.flatten, by simp [subtreeFrom, found, ok],
        fun stack popped rest => .pop found (drains_children drains stack popped rest)⟩
  obtain ⟨p, hp⟩ := Option.isSome_iff_exists.1 contains
  have found := node?_eq_some_iff.2 ⟨p, hp, rfl⟩
  obtain ⟨ids, ok, drains⟩ := each d.walkBound id p.node found (Nat.lt_succ_of_lt (below id p.node found))
  exact ⟨ids, by simpa using drains [] [] .done, ok⟩

/-- The children of an id are listed there. -/
theorem lists_of_mem_children (h : n ∈ d.children id) : d.Lists id n.id := by
  obtain ⟨m, hm, c, hc, found⟩ := exists_of_mem_children h
  obtain rfl := keyed_of_linked nested.linked c n found
  exact ⟨m, hm, hc⟩

/-- No walk along children comes back. -/
theorem descends : d.Descends := by
  obtain ⟨rank, lower, -, -⟩ := exists_rank_of_acyclic nested.linked nested.acyclic
  refine acyclic_of_rank rank ?_
  rintro a _ ⟨c, hc, rfl⟩
  exact lower a c.id (nested.lists_of_mem_children hc)

/-- The walk of an extraction calls itself for listed children. -/
theorem lists_of_goesOn (goes : d.GoesOn a b) : d.Lists a b := by
  obtain ⟨n, hn, -, rfl⟩ := goes
  exact nested.lists_of_mem_children (List.mem_filter.1 hn).1

/-- The style walk calls itself for listed children. -/
theorem lists_of_stylesGoOn (goes : d.StylesGoOn a b) : d.Lists a b := by
  obtain ⟨n, hn, -, -, rfl⟩ := goes
  exact nested.lists_of_mem_children hn

/-- Calls for listed children that are made one in the other are no more than there are nodes, if there are
several. -/
theorem length_le_of_isChain {step : NodeId → NodeId → Prop} (down : ∀ a b, step a b → d.Lists a b)
    {calls : List NodeId} (chain : calls.IsChain step) : calls.length ≤ d.nodes.length + 1 := by
  obtain ⟨rank, lower, bound, -⟩ := exists_rank_of_acyclic nested.linked nested.acyclic
  have inner (a : NodeId) (rest : List NodeId) (chain : (a :: rest).IsChain step) : rest.length ≤ rank a := by
    induction rest generalizing a with
    | nil => exact Nat.zero_le _
    | cons b rest ih =>
      obtain ⟨first, others⟩ := List.isChain_cons_cons.1 chain
      exact Nat.lt_of_le_of_lt (ih b others) (lower a b (down a b first))
  cases calls with
  | nil => exact Nat.zero_le _
  | cons a rest =>
    rw [nodes, List.length_map]
    exact Nat.succ_le_succ ((inner a rest chain).trans (bound a))

end Nested

namespace Descends

variable (descends : d.Descends)
include descends

/-- Children rank below the nodes whose children they are, and no rank is higher than the number of nodes. -/
theorem exists_rank : ∃ rank : NodeId → Nat, (∀ a, ∀ c ∈ d.children a, rank c.id < rank a) ∧
    ∀ id, rank id ≤ d.placements.length := by
  obtain ⟨rank, lower, bound, -⟩ := exists_height_of_acyclic descends (d.nodes.map (·.id)).toFinset
    fun a b ⟨c, hc, same⟩ => List.mem_toFinset.2 (same ▸ List.mem_map_of_mem (mem_nodes_of_mem_children hc))
  exact ⟨rank, fun a c hc => lower a c.id ⟨c, hc, rfl⟩, fun id => (bound id).trans d.card_ids_le⟩

omit descends in
private theorem simulates {rank : NodeId → Nat} (lower : ∀ a, ∀ c ∈ d.children a, rank c.id < rank a) :
    Simulates d d fun f n g m => n = m ∧ rank n.id < f ∧ rank n.id < g where
  depth := by omega
  bare := by rintro f n g m ⟨rfl, -, -⟩; rfl
  looks := by rintro f n g m ⟨rfl, -, -⟩; rfl
  found := by rintro f n g m ⟨rfl, -, -⟩; rfl
  references := by rintro f n g m ⟨rfl, -, -⟩ r -; exact ⟨rfl, rfl⟩
  below := by
    rintro f n g m ⟨rfl, left, right⟩ -
    refine List.forall₂_same.2 fun c hc => ?_
    have deeper := lower n.id c (List.mem_filter.1 hc).1
    exact ⟨rfl, by omega, by omega⟩

/-- Extraction does not depend on how deep it may go, if it may go as deep as the bound. -/
theorem visit_eq_of_le {fuel : Nat} (enough : d.walkBound ≤ fuel) (n : Node) (s : Capture) :
    d.visit fuel n s = d.visit d.walkBound n s := by
  obtain ⟨rank, lower, bound⟩ := descends.exists_rank
  have deep : rank n.id < d.walkBound := Nat.lt_succ_of_le (bound n.id)
  exact (simulates lower).visit_eq ⟨rfl, Nat.lt_of_lt_of_le deep enough, deep⟩ s

/-- The style walk does not depend on how deep it may go, if it may go as deep as the bound. -/
theorem collectStyles_eq_of_le {fuel : Nat} (enough : d.walkBound ≤ fuel) (id : NodeId)
    (styles : OrderedMap StyleMap) : d.collectStyles fuel id styles = d.collectStyles d.walkBound id styles := by
  obtain ⟨rank, lower, bound⟩ := descends.exists_rank
  obtain ⟨fuel, rfl⟩ : ∃ more, fuel = more + 1 := ⟨fuel - 1, by unfold walkBound at enough; omega⟩
  refine (simulates lower).collectStyles_eq (List.forall₂_same.2 fun c hc => ?_) styles
  have deeper := lower id c (List.mem_filter.1 hc).1
  have deep := Nat.lt_of_lt_of_le deeper (bound id)
  exact ⟨rfl, Nat.lt_of_lt_of_le deep (Nat.le_of_succ_le_succ enough), deep⟩

end Descends

/-! ## From instance to main component -/

/-- A chain of instances is followed to its end if it may be as long as the height of its first one. -/
private theorem resolves_targetFrom {height : NodeId → Nat}
    (down : ∀ a b, d.HandsOver a b ∧ d.contains b = true → height b < height a) {fuel : Nat}
    (found : d.node? id = some n) (deep : height id < fuel) :
    ∃ k ≤ height id + 1, d.Resolves id k (d.targetFrom fuel id) := by
  -- A step to a main component that exists loses height, and one to a missing node is the last.
  induction fuel generalizing id n with
  | zero => exact absurd deep (Nat.not_lt_zero _)
  | succ fuel ih =>
    simp only [targetFrom, found]
    split
    · next set => exact ⟨0, Nat.zero_le _, .set found set⟩
    · next component =>
      refine ⟨0, Nat.zero_le _, ?_⟩
      split
      · next p parent =>
        split
        · next set => exact .member found component parent set
        · next other => exact .component found component fun q hq => by cases parent.symm.trans hq; exact other
      · next none => exact .component found component fun q hq => by cases none.symm.trans hq
    · next inst =>
      split
      · next none => exact ⟨0, Nat.zero_le _, .loneInstance found inst (.inl none)⟩
      · next main named =>
        split
        · next same => exact ⟨0, Nat.zero_le _, .loneInstance found inst (.inr (same ▸ named))⟩
        · next other =>
          have hands : d.HandsOver id main := ⟨n, found, inst, named, other⟩
          cases next : d.node? main with
          | none =>
            refine ⟨1, Nat.succ_le_succ (Nat.zero_le _), .handOver hands ?_⟩
            cases fuel with
            | zero => exact .missing next
            | succ fuel => simpa [targetFrom, next] using Resolves.missing next
          | some m =>
            have lower := down id main ⟨hands, by simpa [node?, contains] using congrArg Option.isSome next⟩
            obtain ⟨k, few, resolves⟩ := ih next (by omega)
            exact ⟨k + 1, by omega, .handOver hands resolves⟩
    · next set component inst => exact ⟨0, Nat.zero_le _, .other found set component inst⟩

/-- If no chain of instances loops, a target is found with no more steps than there are nodes. -/
theorem resolves_compileTarget? (loopless : ∀ id, ¬ Relation.TransGen d.HandsOver id id) (id : NodeId) :
    ∃ k ≤ d.nodes.length, d.Resolves id k (d.compileTarget? id) := by
  have acyclic (a : NodeId) : ¬ Relation.TransGen (fun a b => d.HandsOver a b ∧ d.contains b = true) a a :=
    fun loop => loopless a (Relation.TransGen.mono (fun _ _ => And.left) _ _ loop)
  have keyed {b : NodeId} (contains : d.contains b = true) : b ∈ (d.placements.filterMap (·.key)).toFinset := by
    obtain ⟨p, hp⟩ := Option.isSome_iff_exists.1 contains
    exact List.mem_toFinset.2 (List.mem_filterMap.2 ⟨p, mem_of_place? hp, key_of_place? hp⟩)
  obtain ⟨height, down, -, below⟩ := exists_height_of_acyclic acyclic _ fun _ _ step => keyed step.2
  cases found : d.node? id with
  | none => exact ⟨0, Nat.zero_le _, compileTarget?_of_not_found found ▸ .missing found⟩
  | some n =>
    have contains : d.contains id = true := by simpa [node?, contains] using congrArg Option.isSome found
    have few := (List.toFinset_card_le _).trans (List.length_filterMap_le (·.key) d.placements)
    have bound := Nat.lt_of_lt_of_le (below id (keyed contains)) few
    obtain ⟨k, few, resolves⟩ := resolves_targetFrom down found (Nat.lt_succ_of_lt bound)
    rw [nodes, List.length_map]
    exact ⟨k, few.trans bound, resolves⟩

/-! ## Whole documents -/

/-- The walks of a sound document without cycles end. -/
theorem Nested.allWalksEnd (nested : d.Nested) : d.AllWalksEnd where
  parents id := ⟨nested.parentChain id, (nested.parentChain id).nodup (sound_iff_linked.1 nested.sound) nested.acyclic⟩
  ancestorOfKind := nested.climbs_ancestorOfKind?
  page id := nested.climbs_ancestorOfKind? id .page
  owner := nested.climbs_owningTarget?
  removal id contains := by
    obtain ⟨ids, drains, subtree⟩ := nested.drains_subtree contains
    exact ⟨ids, drains, by rw [Document.removeNode, subtree]⟩
  missing id absent := by rw [Document.removeNode, subtree_of_missing absent]
  extraction _ := nested.length_le_of_isChain fun _ _ => nested.lists_of_goesOn
  styles _ := nested.length_le_of_isChain fun _ _ => nested.lists_of_stylesGoOn
  extracted _ := nested.descends.visit_eq_of_le
  collected _ := nested.descends.collectStyles_eq_of_le
  target := resolves_compileTarget?

/-- In a document that is read without cycles all walks end, and after any operations on it: the nodes above
another are all different and found in no more steps than there are nodes, the worklist of a removal empties,
extraction and the style walk go no deeper than there are nodes, and so many steps suffice to find a target if no
chain of instances loops. -/
theorem walks_end {source : String} (read : parse source = .ok d) (acyclic : d.Acyclic)
    {operations : List Operation} (fresh : ∀ operation ∈ operations, operation.Admissible) :
    (d.performAll operations).AllWalksEnd :=
  (Nested.performAll ⟨sound_of_parse read, acyclic⟩ fresh).allWalksEnd

/-- A page with two frames that share a component, and an empty frame. -/
def sharedCard : Document :=
  filed [{ id := "p", name := "Page", kind := .page, children := ["a", "b", "s"] },
    { id := "a", name := "First", kind := .frame, children := ["c"] },
    { id := "b", name := "Second", kind := .frame, children := ["c"] },
    { id := "c", name := "Card", kind := .component },
    { id := "s", name := "Spare", kind := .frame }]

/-- An instance of the component is added to the first frame, and the empty frame is removed. -/
def cardEdits : List Operation :=
  [.addNode { id := "i", name := "Use", kind := .componentInstance, mainComponent := some "c" } (some "a"),
    .removeNode "s"]

/-- Sharing a node keeps no walk from ending, and the instance finds its target. -/
theorem walks_end_sharedCard : parse sharedCard.print = .ok sharedCard ∧ sharedCard.Acyclic ∧
    (∀ operation ∈ cardEdits, operation.Admissible) ∧
    ((sharedCard.performAll cardEdits).nodes.map fun n => (n.id, n.children)) =
      [("p", ["a", "b"]), ("a", ["c", "i"]), ("b", ["c"]), ("c", []), ("i", [])] ∧
    (sharedCard.performAll cardEdits).AllWalksEnd ∧
    ∃ k ≤ 5, (sharedCard.performAll cardEdits).Resolves "i" k (some "c") := by
  have read : parse sharedCard.print = .ok sharedCard := parse_print (by decide +kernel) (by decide +kernel)
  have acyclic : sharedCard.Acyclic :=
    .of_rank (sound_of_parse read) (["s", "c", "b", "a", "p"].idxOf ·) (by decide +kernel)
  have fresh : ∀ operation ∈ cardEdits, operation.Admissible := by simp [cardEdits, Operation.Admissible]
  have ends := walks_end read acyclic fresh
  have sound := (Nested.performAll ⟨sound_of_parse read, acyclic⟩ fresh).sound
  have shape : ((sharedCard.performAll cardEdits).nodes.map fun n => (n.id, n.children)) =
      [("p", ["a", "b"]), ("a", ["c", "i"]), ("b", ["c"]), ("c", []), ("i", [])] := by decide +kernel
  have instances : ∀ n ∈ (sharedCard.performAll cardEdits).nodes, n.kind = .componentInstance →
      n.id = "i" ∧ n.mainComponent = some "c" := by decide +kernel
  have hands {a b : NodeId} : (sharedCard.performAll cardEdits).HandsOver a b → a = "i" ∧ b = "c" := by
    rintro ⟨n, found, inst, main, -⟩
    obtain ⟨mem, rfl⟩ := (sound.lookup a n).1 found
    obtain ⟨same, card⟩ := instances n mem inst
    exact ⟨same, Option.some.inj (main.symm.trans card)⟩
  have loopless : ∀ id, ¬ Relation.TransGen (sharedCard.performAll cardEdits).HandsOver id id := by
    refine acyclic_of_rank (["c", "i"].idxOf ·) fun a b step => ?_
    obtain ⟨rfl, rfl⟩ := hands step
    decide
  have target : (sharedCard.performAll cardEdits).compileTarget? "i" = some "c" := by decide +kernel
  obtain ⟨k, few, resolves⟩ := ends.target loopless "i"
  have five : (sharedCard.performAll cardEdits).nodes.length = 5 := by simpa using congrArg List.length shape
  exact ⟨read, acyclic, fresh, shape, ends, k, five ▸ few, target ▸ resolves⟩

end Handoff.Document
