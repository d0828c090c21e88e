import Handoff.Proofs.Component.Walk
import Handoff.Proofs.Scene.Subtree

/-!
# Where walks fail

A walk looks at every node that renders below its root and is not cut off by a swap, an asset, an instance
or a text. It fails exactly if no component can be named for an instance among these nodes, whatever has
been captured before. The bound on walks never hides such an instance: what is reached at all is reached in no
more steps than the document has nodes.
-/

namespace Handoff.Document

variable {d : Document} {a b c : NodeId} {n m : Node} {s : Capture}

/-! ## Reached nodes -/

/-- The nodes that the walk below an id reaches. -/
inductive Reached (d : Document) (id : NodeId) : Node → Prop where
  | top {n : Node} : n ∈ d.renderedChildren id → Reached d id n
  | deeper {n m : Node} : Reached d id n → n.endsWalk = false → m ∈ d.renderedChildren n.id →
    Reached d id m

/-- Whether the walk below one id goes on below another after a number of steps. -/
def GoesIn (d : Document) : Nat → NodeId → NodeId → Prop
  | 0, a, b => a = b
  | k + 1, a, b => ∃ c, d.GoesIn k a c ∧ d.GoesOn c b

/-- The first step may be taken apart as well as the last. -/
theorem goesIn_succ_iff {k : Nat} : d.GoesIn (k + 1) a b ↔ ∃ c, d.GoesOn a c ∧ d.GoesIn k c b := by
  induction k generalizing b with
  | zero => simp [GoesIn]
  | succ k ih =>
    rw [GoesIn]
    simp only [ih]
    constructor
    · rintro ⟨c, ⟨e, first, inner⟩, last⟩
      exact ⟨e, first, c, inner, last⟩
    · rintro ⟨e, first, c, inner, last⟩
      exact ⟨c, ⟨e, first, inner⟩, last⟩

/-- A node is reached below some id to which the walk goes in steps. -/
theorem reached_iff : d.Reached a n ↔ ∃ k b, d.GoesIn k a b ∧ n ∈ d.renderedChildren b := by
  constructor
  · intro h
    induction h with
    | top hn => exact ⟨0, a, rfl, hn⟩
    | @deeper n m _ goes hm ih =>
      obtain ⟨k, b, steps, hn⟩ := ih
      exact ⟨k + 1, n.id, ⟨b, steps, n, hn, goes, rfl⟩, hm⟩
  · rintro ⟨k, b, steps, hn⟩
    induction k generalizing b n with
    | zero =>
      subst steps
      exact .top hn
    | succ k ih =>
      obtain ⟨c, inner, m, hm, goes, rfl⟩ := steps
      exact .deeper (ih c inner hm) goes hn

/-- The walk goes wherever it goes in at most as many steps as there are nodes. -/
theorem exists_goesIn_le {k : Nat} (steps : d.GoesIn k a b) :
    ∃ j ≤ d.placements.length, d.GoesIn j a b := by
  have back (k : Nat) (b : NodeId) (steps : d.GoesIn (k + 1) a b) : b ∈ (d.nodes.map (·.id)).toFinset ∧
      ∃ c, d.GoesIn k a c ∧ ∀ j, d.GoesIn j a c → d.GoesIn (j + 1) a b := by
    obtain ⟨c, inner, m, hm, goes, rfl⟩ := steps
    refine ⟨?_, c, inner, fun j inner => ⟨c, inner, m, hm, goes, rfl⟩⟩
    exact List.mem_toFinset.2 (List.mem_map_of_mem (mem_nodes_of_mem_renderedChildren hm))
  obtain ⟨j, le, steps⟩ := exists_le_card_of_stages (fun k b => d.GoesIn k a b) back steps
  exact ⟨j, le.trans d.card_ids_le, steps⟩

/-- Whether the walk below an id reaches a node at most so deep. -/
def Within (d : Document) (depth : Nat) (id : NodeId) (n : Node) : Prop :=
  ∃ k < depth, ∃ b, d.GoesIn k id b ∧ n ∈ d.renderedChildren b

/-- What is reached one level deeper renders below the id itself, or is reached below one of these nodes. -/
theorem within_succ_iff {depth : Nat} : d.Within (depth + 1) a n ↔
    ∃ m ∈ d.renderedChildren a, m = n ∨ m.endsWalk = false ∧ d.Within depth m.id n := by
  constructor
  · rintro ⟨k, deep, b, steps, hn⟩
    cases k with
    | zero =>
      subst steps
      exact ⟨n, hn, .inl rfl⟩
    | succ k =>
      obtain ⟨_, ⟨m, hm, goes, rfl⟩, inner⟩ := goesIn_succ_iff.1 steps
      exact ⟨m, hm, .inr ⟨goes, k, by omega, b, inner, hn⟩⟩
  · rintro ⟨m, hm, rfl | ⟨goes, k, deep, b, inner, hn⟩⟩
    · exact ⟨0, by omega, a, rfl, hm⟩
    · exact ⟨k + 1, by omega, b, goesIn_succ_iff.2 ⟨m.id, ⟨m, hm, goes, rfl⟩, inner⟩, hn⟩

/-- What is reached at all is reached within the bound on walks. -/
theorem within_walkBound_iff : d.Within d.walkBound a n ↔ d.Reached a n := by
  rw [reached_iff]
  constructor
  · rintro ⟨k, -, b, steps, hn⟩
    exact ⟨k, b, steps, hn⟩
  · rintro ⟨k, b, steps, hn⟩
    obtain ⟨j, bound, steps⟩ := exists_goesIn_le steps
    exact ⟨j, Nat.lt_succ_of_le bound, b, steps, hn⟩

/-! ## Instances that lead nowhere -/

/-- Whether a node renders as an instance: it is one, and no property swaps it. -/
def RendersInstance (n : Node) : Prop :=
  n.kind = .componentInstance ∧ n.propertyReferences.mainComponent = none

/-- Whether an instance leads nowhere: it has no main component, or a missing one, or one that is neither
an icon nor has a target. -/
inductive LeadsNowhere (d : Document) (n : Node) : Prop where
  | noMain : n.mainComponent = none → LeadsNowhere d n
  | missingMain {id : NodeId} : n.mainComponent = some id → d.node? id = none → LeadsNowhere d n
  | noTarget {id : NodeId} {main : Node} : n.mainComponent = some id → d.node? id = some main →
    Text.isIconName main.name = false → d.compileTarget? id = none → LeadsNowhere d n

/-- Whether the target of an instance is not found under its own id. Only a node that is found under an
id other than its own can be such a target. -/
structure LosesTarget (d : Document) (n : Node) : Prop where
  lost : ∃ id main target, n.mainComponent = some id ∧ d.node? id = some main ∧
    Text.isIconName main.name = false ∧ d.compileTarget? id = some target ∧ d.node? target = none

/-- Whether no component can be named for an instance. -/
def Unusable (d : Document) (n : Node) : Prop := d.LeadsNowhere n ∨ d.LosesTarget n

/-- An instance of a component that exists is unusable if the component is no icon and has no named
target. -/
private theorem unusable_iff {main : Node} {id : NodeId} (hmain : n.mainComponent = some id)
    (found : d.node? id = some main) :
    d.Unusable n ↔ Text.isIconName main.name = false ∧ d.targetName? id = none := by
  have none : d.targetName? id = none ↔
      d.compileTarget? id = none ∨ ∃ target, d.compileTarget? id = some target ∧ d.node? target = none := by
    unfold targetName?
    cases d.compileTarget? id <;> simp
  rw [none]
  constructor
  · rintro (leads | ⟨id', main', target, hmain', found', noIcon, targets, lost⟩)
    · cases leads with
      | noMain absent => simp [hmain] at absent
      | missingMain hmain' lost =>
        cases hmain.symm.trans hmain'
        simp [found] at lost
      | noTarget hmain' found' noIcon noTarget =>
        cases hmain.symm.trans hmain'
        cases found.symm.trans found'
        exact ⟨noIcon, .inl noTarget⟩
    · cases hmain.symm.trans hmain'
      cases found.symm.trans found'
      exact ⟨noIcon, .inr ⟨target, targets, lost⟩⟩
  · rintro ⟨noIcon, noTarget | ⟨target, targets, lost⟩⟩
    · exact .inl (.noTarget hmain found noIcon noTarget)
    · exact .inr ⟨id, main, target, hmain, found, noIcon, targets, lost⟩

private theorem mainUse_fails_iff {main : Node} {id : NodeId} :
    (∃ e, (d.mainUse s n main id).2 = .error e) ↔
      Text.isIconName main.name = false ∧ d.targetName? id = none := by
  unfold mainUse
  cases Text.isIconName main.name with
  | true => simp
  | false => cases d.targetName? id <;> simp

/-- What an instance renders cannot be told exactly if it is unusable. -/
theorem instanceUse_fails_iff : (∃ e, (d.instanceUse s n).2 = .error e) ↔ d.Unusable n := by
  cases hmain : n.mainComponent with
  | none =>
    simp only [instanceUse, hmain, Except.error.injEq, exists_eq', true_iff]
    exact .inl (.noMain hmain)
  | some id =>
    cases found : d.node? id with
    | none =>
      simp only [instanceUse, hmain, found, Except.error.injEq, exists_eq', true_iff]
      exact .inl (.missingMain hmain found)
    | some main =>
      rw [unusable_iff hmain found, ← mainUse_fails_iff (s := s) (n := n)]
      simp only [instanceUse, hmain, found]
      split <;> next h => simp [h]

/-! ## Walks that fail -/

/-- If each visit fails for certain nodes, whatever has been captured, the visits of a list fail if one of
these nodes is in it. -/
private theorem visitEach_fails_iff {visit : Node → Capture → Capture × Except CompileError Entry}
    {P : Node → Prop} {nodes : List Node}
    (each : ∀ n ∈ nodes, ∀ s, (∃ e, (visit n s).2 = .error e) ↔ P n) :
    (∃ e, (visitEach visit nodes s).2 = .error e) ↔ ∃ n ∈ nodes, P n := by
  induction nodes generalizing s with
  | nil => simp [visitEach]
  | cons n rest ih =>
    have first := each n List.mem_cons_self s
    have others (s : Capture) := ih (s := s) fun m hm => each m (List.mem_cons_of_mem _ hm)
    simp only [List.mem_cons, exists_eq_or_imp, ← first, visitEach]
    split
    · next h => simp [h]
    · next s₁ _ h =>
      rw [← others s₁]
      split <;> next h' => simp [h, h']

/-- A visit fails for an unusable instance, and for a node below which the walk fails. -/
private theorem visit_fails_iff {fuel : Nat} {P : Node → Prop}
    (below : ∀ n s, (∃ e, (visitEach (d.visit fuel) (d.renderedChildren n.id) s).2 = .error e) ↔ P n) :
    (∃ e, (d.visit (fuel + 1) n s).2 = .error e) ↔
      (RendersInstance n ∧ d.Unusable n) ∨ n.endsWalk = false ∧ P n := by
  simp only [visit, modelNode, Option.isSome_map]
  split
  · next swap => simp [RendersInstance, Node.endsWalk, Option.isSome_iff_ne_none.1 swap, swap]
  · next swap =>
    have fixed : n.propertyReferences.mainComponent = none := by simpa using swap
    split
    · next asset =>
      have other : n.kind ≠ .componentInstance := by
        intro h
        simp [h, NodeKind.isAsset] at asset
      simp [RendersInstance, Node.endsWalk, other, asset]
    · next asset =>
      split
      · next inst =>
        have used := instanceUse_fails_iff (d := d) (s := s.addLinks n) (n := n)
        have ends : n.endsWalk = true := by simp [Node.endsWalk, inst]
        simp only [RendersInstance, inst, fixed, and_self, true_and, ends, Bool.true_eq_false, false_and,
          or_false, ← used]
        split <;> next h => simp [h]
      · next inst =>
        split
        · next text => simp [RendersInstance, Node.endsWalk, text]
        · next text =>
          have goes : n.endsWalk = false := by simp [Node.endsWalk, fixed, asset, inst, text]
          have walked := below n (((s.addLinks n).addPrimitive (Primitive.ofKind n.kind)).addStyle
            (Text.camelIdentifier n.name) (Style.resolve d n))
          simp only [RendersInstance, inst, false_and, false_or, goes, true_and, ← walked]
          split <;> next h => simp [h]

/-- A walk of some depth fails exactly if it reaches an unusable instance. -/
theorem visitEach_fails_iff_within {fuel : Nat} {id : NodeId} :
    (∃ e, (visitEach (d.visit fuel) (d.renderedChildren id) s).2 = .error e) ↔
      ∃ n, d.Within fuel id n ∧ RendersInstance n ∧ d.Unusable n := by
  induction fuel generalizing id s with
  | zero =>
    -- Without depth nothing is looked at.
    have none (n : Node) (s : Capture) : (∃ e, (d.visit 0 n s).2 = .error e) ↔ False := by simp [visit]
    rw [visitEach_fails_iff fun n _ s => none n s]
    simp only [and_false, exists_false, false_iff, not_exists]
    rintro n ⟨⟨k, deep, -⟩, -⟩
    omega
  | succ fuel ih =>
    have each (n : Node) (s : Capture) := visit_fails_iff (n := n) (s := s) fun m s => @ih s m.id
    rw [visitEach_fails_iff fun n _ s => each n s]
    simp only [within_succ_iff]
    constructor
    · rintro ⟨m, hm, leads | ⟨goes, n, inner, leads⟩⟩
      · exact ⟨m, ⟨m, hm, .inl rfl⟩, leads⟩
      · exact ⟨n, ⟨m, hm, .inr ⟨goes, inner⟩⟩, leads⟩
    · rintro ⟨n, ⟨m, hm, rfl | ⟨goes, inner⟩⟩, leads⟩
      · exact ⟨m, hm, .inl leads⟩
      · exact ⟨m, hm, .inr ⟨goes, n, inner, leads⟩⟩

/-- The walk of an extraction fails exactly if it reaches an unusable instance. -/
theorem walk_fails_iff {id : NodeId} :
    (∃ e, (visitEach (d.visit d.walkBound) (d.renderedChildren id) s).2 = .error e) ↔
      ∃ n, d.Reached id n ∧ RendersInstance n ∧ d.Unusable n := by
  rw [visitEach_fails_iff_within]
  simp only [within_walkBound_iff]

end Handoff.Document
