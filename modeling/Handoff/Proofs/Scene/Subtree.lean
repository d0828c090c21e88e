import Handoff.Proofs.Ordered.Attempts
import Handoff.Proofs.Scene.Soundness

/-!
# Subtrees

The subtree of a node is the node with all that lies below it. The bound on walks hides nothing of it: what lies
below a node at all lies there in no more steps than the document has nodes, whether or not nodes lie below
themselves.
-/

namespace Handoff

/-- What is reached in stages is reached within as many as there is to reach. -/
theorem exists_le_card_of_stages {α : Type} (reached : Nat → α → Prop) {all : Finset α}
    (back : ∀ k b, reached (k + 1) b →
      b ∈ all ∧ ∃ c, reached k c ∧ ∀ j, reached j c → reached (j + 1) b)
    {k : Nat} {b : α} (h : reached k b) : ∃ j ≤ all.card, reached j b := by
  classical
  -- Something that is not reached earlier comes after as many others, all different.
  have passes (k : Nat) (b : α) (h : reached k b) (first : ∀ j < k, ¬ reached j b) :
      ∃ passed ⊆ all, passed.card = k ∧ ∀ e ∈ passed, ∃ j ≤ k, reached j e := by
    induction k generalizing b with
    | zero => exact ⟨∅, Finset.empty_subset _, rfl, fun _ he => absurd he (Finset.notMem_empty _)⟩
    | succ k ih =>
      obtain ⟨mem, c, inner, again⟩ := back k b h
      obtain ⟨passed, part, card, early⟩ := ih c inner fun j hj hc => first (j + 1) (by omega) (again j hc)
      have fresh : b ∉ passed := by
        intro hb
        obtain ⟨j, hj, hb⟩ := early b hb
        exact first j (by omega) hb
      refine ⟨insert b passed, Finset.insert_subset mem part, by simp [fresh, card], fun e he => ?_⟩
      rcases Finset.mem_insert.1 he with rfl | he
      · exact ⟨k + 1, Nat.le_refl _, h⟩
      · obtain ⟨j, hj, he⟩ := early e he
        exact ⟨j, by omega, he⟩
  have some : ∃ k, reached k b := ⟨k, h⟩
  obtain ⟨passed, part, card, -⟩ := passes _ b (Nat.find_spec some) fun j => Nat.find_min some
  exact ⟨_, card ▸ Finset.card_le_card part, Nat.find_spec some⟩

namespace Document

variable {d : Document} {id a b x : NodeId}

/-! ## Steps below a node -/

/-- Whether one id lies below another by a number of steps. -/
def ListsIn (d : Document) : Nat → NodeId → NodeId → Prop
  | 0, a, b => a = b
  | k + 1, a, b => ∃ c, d.Lists a c ∧ d.ListsIn k c b

/-- A path takes some number of steps. -/
theorem reflTransGen_lists_iff : Relation.ReflTransGen d.Lists a b ↔ ∃ k, d.ListsIn k a b := by
  constructor
  · intro path
    induction path using Relation.ReflTransGen.head_induction_on with
    | refl => exact ⟨0, rfl⟩
    | head step _ ih =>
      obtain ⟨k, steps⟩ := ih
      exact ⟨k + 1, _, step, steps⟩
  · rintro ⟨k, steps⟩
    induction k generalizing a with
    | zero => exact steps ▸ .refl
    | succ k ih =>
      obtain ⟨c, step, steps⟩ := steps
      exact (ih steps).head step

/-- In a sound document what lies below an id does so by no more steps than there are nodes. -/
theorem Sound.exists_listsIn_le (sound : d.Sound) {k : Nat} (steps : d.ListsIn k a b) :
    ∃ j ≤ d.placements.length, d.ListsIn j a b := by
  have back (k : Nat) (a : NodeId) (steps : d.ListsIn (k + 1) a b) : a ∈ (d.nodes.map (·.id)).toFinset ∧
      ∃ c, d.ListsIn k c b ∧ ∀ j, d.ListsIn j c b → d.ListsIn (j + 1) a b := by
    obtain ⟨c, step, steps⟩ := steps
    refine ⟨?_, c, steps, fun j steps => ⟨c, step, steps⟩⟩
    obtain ⟨n, hn, -⟩ := step
    obtain ⟨mem, rfl⟩ := (sound.lookup a n).1 hn
    exact List.mem_toFinset.2 (List.mem_map_of_mem mem)
  obtain ⟨j, le, steps⟩ := exists_le_card_of_stages (fun k a => d.ListsIn k a b) back steps
  exact ⟨j, le.trans d.card_ids_le, steps⟩

/-! ## Walks -/

private theorem mem_flatten_iff {below : NodeId → NodeId → Prop} {children : List NodeId} {lists : List (List NodeId)}
    (each : children.Forall₂ (fun c ids => ∀ x, x ∈ ids ↔ below c x) lists) :
    ∀ x, x ∈ lists.flatten ↔ ∃ c ∈ children, below c x := by
  induction each with
  | nil => simp
  | cons first _ ih => simp [first, ih]

/-- In a sound document a walk of some depth finds what lies below by fewer steps. -/
theorem Sound.subtreeFrom (sound : d.Sound) (fuel : Nat) {n : Node} (h : d.node? id = some n) :
    ∃ ids, d.subtreeFrom fuel id = .ok ids ∧ ∀ x, x ∈ ids ↔ ∃ k < fuel, d.ListsIn k id x := by
  induction fuel generalizing id n with
  | zero => exact ⟨[], rfl, by simp⟩
  | succ fuel ih =>
    have each : ∀ c ∈ n.children.reverse, ∃ ids, d.subtreeFrom fuel c = .ok ids ∧
        ∀ x, x ∈ ids ↔ ∃ k < fuel, d.ListsIn k c x := by
      intro c hc
      obtain ⟨m, hm, same⟩ := sound.closed n (mem_nodes_of_node? h) c (List.mem_reverse.1 hc)
      exact ih ((sound.lookup c m).2 ⟨hm, same⟩)
    obtain ⟨lists, ok, members⟩ := exists_mapM_ok each
    refine ⟨id :: lists.flatten, by simp [Document.subtreeFrom, h, ok], fun x => ?_⟩
    -- A path below a node is empty, or goes on below one of its children with one step less.
    rw [List.mem_cons, mem_flatten_iff members]
    constructor
    · rintro (rfl | ⟨c, hc, k, few, steps⟩)
      · exact ⟨0, Nat.succ_pos _, rfl⟩
      · exact ⟨k + 1, by omega, c, ⟨n, h, List.mem_reverse.1 hc⟩, steps⟩
    · rintro ⟨k, few, steps⟩
      cases k with
      | zero => exact .inl steps.symm
      | succ k =>
        obtain ⟨c, ⟨m, hm, hc⟩, steps⟩ := steps
        obtain rfl := Option.some.inj (h.symm.trans hm)
        exact .inr ⟨c, List.mem_reverse.2 hc, k, by omega, steps⟩

/-- In a sound document the subtree of a node is the node with all that lies below. -/
theorem subtree_of_contains (sound : d.Sound) (h : d.contains id = true) :
    ∃ ids, d.subtree id = .ok ids ∧ ∀ x, x ∈ ids ↔ Relation.ReflTransGen d.Lists id x := by
  obtain ⟨p, hp⟩ := Option.isSome_iff_exists.1 h
  obtain ⟨ids, ok, members⟩ := sound.subtreeFrom d.walkBound (node?_eq_some_iff.2 ⟨p, hp, rfl⟩)
  refine ⟨ids, ok, fun x => ?_⟩
  rw [members, reflTransGen_lists_iff]
  constructor
  · rintro ⟨k, -, steps⟩
    exact ⟨k, steps⟩
  · rintro ⟨k, steps⟩
    obtain ⟨j, few, steps⟩ := sound.exists_listsIn_le steps
    exact ⟨j, Nat.lt_succ_of_le few, steps⟩

/-- An id that finds no node has no subtree. -/
theorem subtree_of_missing (h : d.contains id = false) : d.subtree id = .error (.nodeNotFound id) := by
  have missing : d.node? id = none := by simpa [contains, node?] using h
  simp [subtree, walkBound, Document.subtreeFrom, missing]

end Document
end Handoff
