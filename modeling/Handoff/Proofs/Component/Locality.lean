import Handoff.Proofs.Component.Simulation
import Handoff.Proofs.Scene.Tree

/-!
# What extraction looks at

The walks of a target start at the members of a set, or at the target itself, and go down rendered
children as far as no swap, asset, instance or text stops them. In trees, a model depends on the nodes
that these walks visit, on what their references lead to, and on the list of the target's children.
-/

namespace Handoff

namespace Document

/-- The nodes at which the walks of a target start: the members of a set, or the target itself. -/
def WalkRoot (d : Document) (target : NodeId) (n : Node) : Prop :=
  ∃ t, d.node? target = some t ∧
    if t.kind = .componentSet then n ∈ d.children target ∧ n.kind = .component else n = t

/-- The nodes that the walks of a target visit. -/
inductive Visited (d : Document) (target : NodeId) : Node → Prop where
  | root {n : Node} : d.WalkRoot target n → Visited d target n
  | top {n m : Node} : d.WalkRoot target n → m ∈ d.renderedChildren n.id → Visited d target m
  | deeper {n m : Node} : Visited d target n → n.endsWalk = false → m ∈ d.renderedChildren n.id →
    Visited d target m

/-- Whether two documents agree on what extraction looks at for a target, up to plugin data: the
target, its children, the visited nodes and their looks, and what visited nodes refer to. -/
structure SameInside (d₁ d₂ : Document) (target : NodeId) : Prop where
  node : (d₁.node? target).map Node.bare = (d₂.node? target).map Node.bare
  children : (d₁.children target).map Node.bare = (d₂.children target).map Node.bare
  visited : ∀ n, (∃ m, d₁.Visited target m ∧ m.bare = n) ↔ ∃ m, d₂.Visited target m ∧ m.bare = n
  looks : ∀ n, d₁.Visited target n → Style.resolve d₁ n = Style.resolve d₂ n
  references : ∀ n, d₁.Visited target n → ∀ r ∈ n.references, SameReference d₁ d₂ r

/-! ## Visited nodes -/

section

variable {d : Document} {target : NodeId}

/-- A rendered child is listed, found under its id, and rendered. -/
theorem TreeShaped.mem_renderedChildren_iff (tree : d.TreeShaped) {id : NodeId} {m : Node} :
    m ∈ d.renderedChildren id ↔
      d.node? m.id = some m ∧ d.Lists id m.id ∧ m.isRendered = true := by
  rw [renderedChildren, List.mem_filter, tree.mem_children_iff]
  constructor
  · rintro ⟨⟨hm, hl⟩, hr⟩
    exact ⟨node?_of_mem tree.linked hm, hl, hr⟩
  · rintro ⟨hm, hl, hr⟩
    exact ⟨⟨mem_nodes_of_node? hm, hl⟩, hr⟩

/-- Walks start at nodes of the document. -/
theorem TreeShaped.node?_of_walkRoot (tree : d.TreeShaped) {n : Node} (h : d.WalkRoot target n) :
    d.node? n.id = some n := by
  obtain ⟨t, ht, h⟩ := h
  split at h
  · exact node?_of_mem tree.linked (tree.mem_children_iff.1 h.1).1
  · rw [h, keyed_of_linked tree.linked _ _ ht]
    exact ht

/-- Visited nodes are nodes of the document. -/
theorem TreeShaped.node?_of_visited (tree : d.TreeShaped) {n : Node} (h : d.Visited target n) :
    d.node? n.id = some n := by
  cases h with
  | root h => exact tree.node?_of_walkRoot h
  | top _ h => exact (tree.mem_renderedChildren_iff.1 h).1
  | deeper _ _ h => exact (tree.mem_renderedChildren_iff.1 h).1

/-- Whether a walk of a target goes on below a node. -/
def Opens (d : Document) (target : NodeId) (n : Node) : Prop :=
  d.WalkRoot target n ∨ d.Visited target n ∧ n.endsWalk = false

/-- What renders below a node at which a walk goes on is visited. -/
theorem Opens.visited {n m : Node} (h : d.Opens target n) (hm : m ∈ d.renderedChildren n.id) :
    d.Visited target m := by
  rcases h with h | ⟨h, ends⟩
  · exact .top h hm
  · exact .deeper h ends hm

/-- A walk goes on below nodes of the document. -/
theorem Opens.node? (tree : d.TreeShaped) {n : Node} (h : d.Opens target n) :
    d.node? n.id = some n := by
  rcases h with h | ⟨h, -⟩
  · exact tree.node?_of_walkRoot h
  · exact tree.node?_of_visited h

end

/-- Nodes that agree without plugin data end walks alike. -/
theorem endsWalk_eq_of_bare {n m : Node} (h : n.bare = m.bare) : n.endsWalk = m.endsWalk :=
  Node.eq_of_bare (fun _ => rfl) h

/-- Nodes that agree without plugin data list the same children. -/
theorem children_eq_of_bare {n m : Node} (h : n.bare = m.bare) : n.children = m.children :=
  Node.eq_of_bare (fun _ => rfl) h

theorem filter_map_bare {p : Node → Bool} (hp : ∀ n, p n.bare = p n) {l₁ l₂ : List Node}
    (h : l₁.map Node.bare = l₂.map Node.bare) :
    (l₁.filter p).map Node.bare = (l₂.filter p).map Node.bare := by
  have same : p ∘ Node.bare = p := funext hp
  have first := List.filter_map (p := p) (f := Node.bare) (l := l₁)
  have second := List.filter_map (p := p) (f := Node.bare) (l := l₂)
  rw [same] at first second
  rw [← first, ← second, h]

private theorem forall₂_of_map_bare {P : Node → Node → Prop} {l₁ l₂ : List Node}
    (h : l₁.map Node.bare = l₂.map Node.bare)
    (hP : ∀ a ∈ l₁, ∀ b ∈ l₂, a.bare = b.bare → P a b) : List.Forall₂ P l₁ l₂ := by
  induction l₁ generalizing l₂ with
  | nil =>
    cases l₂ with
    | nil => exact .nil
    | cons b rest => cases h
  | cons a rest ih =>
    cases l₂ with
    | nil => cases h
    | cons b others =>
      rw [List.map_cons, List.map_cons, List.cons.injEq] at h
      refine .cons (hP a List.mem_cons_self b List.mem_cons_self h.1) (ih h.2 ?_)
      intro a' ha b' hb
      exact hP a' (List.mem_cons_of_mem _ ha) b' (List.mem_cons_of_mem _ hb)

/-! ## Walks over agreeing trees -/

section

variable {d₁ d₂ : Document} {target : NodeId}

private theorem rendered_bare {n : Node} (hn : d₁.node? n.id = some n) :
    (d₁.renderedChildren n.id).map Node.bare =
      n.children.filterMap fun c => ((d₁.node? c).filter (·.isRendered)).map Node.bare := by
  rw [renderedChildren, children, hn]
  simp only
  induction n.children with
  | nil => rfl
  | cons c rest ih =>
    cases hc : d₁.node? c with
    | none => simp [hc, ih]
    | some m =>
      by_cases hr : m.isRendered = true
      · simp [hc, hr, ih]
      · simp [hc, hr, ih]

private theorem rendered_child {n m : Node} (tree₁ : d₁.TreeShaped) (tree₂ : d₂.TreeShaped)
    (visited : ∀ m, d₁.Visited target m → ∃ m', d₂.Visited target m' ∧ m'.bare = m.bare)
    (opens : d₁.Opens target n) {c : NodeId} (hc : c ∈ n.children)
    (hm : (d₁.node? c).filter (·.isRendered) = some m) :
    ((d₂.node? c).filter (·.isRendered)).map Node.bare = some m.bare := by
  obtain ⟨hfound, hr⟩ := Option.filter_eq_some_iff.1 hm
  have hid := keyed_of_linked tree₁.linked _ _ hfound
  have rendered : m ∈ d₁.renderedChildren n.id := by
    rw [tree₁.mem_renderedChildren_iff, hid]
    exact ⟨hfound, ⟨n, opens.node? tree₁, hc⟩, hr⟩
  obtain ⟨m', hvisited, hb⟩ := visited m (opens.visited rendered)
  have hfound' := tree₂.node?_of_visited hvisited
  rw [Node.id_eq_of_bare hb, hid] at hfound'
  have hr' : m'.isRendered = true := by
    show m'.bare.isRendered = true
    rw [hb]
    exact hr
  rw [hfound', Option.filter_some, if_pos hr', Option.map_some, hb]

/-- Where both documents visit the same nodes, the same nodes render below a node at which a walk goes
on. -/
theorem renderedChildren_bare_eq (tree₁ : d₁.TreeShaped) (tree₂ : d₂.TreeShaped)
    (same : d₁.SameInside d₂ target) {n m : Node} (hb : n.bare = m.bare)
    (opens₁ : d₁.Opens target n) (opens₂ : d₂.Opens target m) :
    (d₁.renderedChildren n.id).map Node.bare = (d₂.renderedChildren m.id).map Node.bare := by
  have forth : ∀ m, d₁.Visited target m → ∃ m', d₂.Visited target m' ∧ m'.bare = m.bare :=
    fun m h => (same.visited m.bare).1 ⟨m, h, rfl⟩
  have back : ∀ m, d₂.Visited target m → ∃ m', d₁.Visited target m' ∧ m'.bare = m.bare :=
    fun m h => (same.visited m.bare).2 ⟨m, h, rfl⟩
  have lists := children_eq_of_bare hb
  rw [rendered_bare (opens₁.node? tree₁), rendered_bare (opens₂.node? tree₂), ← lists]
  apply List.filterMap_congr
  intro c hc
  cases h₁ : (d₁.node? c).filter (·.isRendered) with
  | some a => rw [rendered_child tree₁ tree₂ forth opens₁ hc h₁, Option.map_some]
  | none =>
    cases h₂ : (d₂.node? c).filter (·.isRendered) with
    | none => rfl
    | some b =>
      have found := rendered_child tree₂ tree₁ back opens₂ (lists ▸ hc) h₂
      rw [h₁] at found
      cases found

/-- The relation between visited nodes of two trees: alike up to plugin data, each within the depth
that its rank allows. -/
def Alike (d₁ d₂ : Document) (target : NodeId) (rank₁ rank₂ : NodeId → Nat) (f : Nat) (n : Node)
    (g : Nat) (m : Node) : Prop :=
  n.bare = m.bare ∧ d₁.Visited target n ∧ d₂.Visited target m ∧ rank₁ n.id < f ∧ rank₂ m.id < g

variable {rank₁ rank₂ : NodeId → Nat}

private theorem below_alike (tree₁ : d₁.TreeShaped) (tree₂ : d₂.TreeShaped)
    (same : d₁.SameInside d₂ target) (hr₁ : ∀ a b, d₁.Lists a b → rank₁ b < rank₁ a)
    (hr₂ : ∀ a b, d₂.Lists a b → rank₂ b < rank₂ a) {f g : Nat} {n m : Node} (hb : n.bare = m.bare)
    (opens₁ : d₁.Opens target n) (opens₂ : d₂.Opens target m) (hf : rank₁ n.id ≤ f)
    (hg : rank₂ m.id ≤ g) :
    List.Forall₂ (fun a b => Alike d₁ d₂ target rank₁ rank₂ f a g b) (d₁.renderedChildren n.id)
      (d₂.renderedChildren m.id) := by
  apply forall₂_of_map_bare (renderedChildren_bare_eq tree₁ tree₂ same hb opens₁ opens₂)
  intro a ha b hb hab
  have la := hr₁ _ _ (tree₁.mem_renderedChildren_iff.1 ha).2.1
  have lb := hr₂ _ _ (tree₂.mem_renderedChildren_iff.1 hb).2.1
  exact ⟨hab, opens₁.visited ha, opens₂.visited hb, by omega, by omega⟩

private theorem simulates_alike (tree₁ : d₁.TreeShaped) (tree₂ : d₂.TreeShaped)
    (same : d₁.SameInside d₂ target) (hr₁ : ∀ a b, d₁.Lists a b → rank₁ b < rank₁ a)
    (hr₂ : ∀ a b, d₂.Lists a b → rank₂ b < rank₂ a) :
    Simulates d₁ d₂ (Alike d₁ d₂ target rank₁ rank₂) where
  depth := by
    rintro f n g m ⟨-, -, -, hf, hg⟩
    omega
  bare h := h.1
  looks := by
    rintro f n g m ⟨hb, hn, -, -, -⟩
    rw [same.looks n hn, ← resolve_bare, hb, resolve_bare]
  found := by
    rintro f n g m ⟨hb, hn, hm, -, -⟩
    rw [tree₁.node?_of_visited hn, tree₂.node?_of_visited hm, Option.map_some, Option.map_some, hb]
  references := by
    rintro f n g m ⟨-, hn, -, -, -⟩
    exact same.references n hn
  below := by
    rintro f n g m ⟨hb, hn, hm, hf, hg⟩ ends
    have ends' : m.endsWalk = false := by rw [← endsWalk_eq_of_bare hb, ends]
    exact below_alike tree₁ tree₂ same hr₁ hr₂ hb (.inr ⟨hn, ends⟩) (.inr ⟨hm, ends'⟩)
      (Nat.le_of_lt_succ hf) (Nat.le_of_lt_succ hg)

private theorem roots_alike (tree₁ : d₁.TreeShaped) (tree₂ : d₂.TreeShaped)
    (same : d₁.SameInside d₂ target) (hr₁ : ∀ a b, d₁.Lists a b → rank₁ b < rank₁ a)
    (hr₂ : ∀ a b, d₂.Lists a b → rank₂ b < rank₂ a) {f g : Nat} {n m : Node} (hb : n.bare = m.bare)
    (root₁ : d₁.WalkRoot target n) (root₂ : d₂.WalkRoot target m) (hf : rank₁ n.id ≤ f)
    (hg : rank₂ m.id ≤ g) :
    Simulates.Roots d₁ d₂ (Alike d₁ d₂ target rank₁ rank₂) f g n m where
  bare := hb
  looks := by rw [same.looks n (.root root₁), ← resolve_bare, hb, resolve_bare]
  below := below_alike tree₁ tree₂ same hr₁ hr₂ hb (.inl root₁) (.inl root₂) hf hg

/-- Trees that agree on what extraction looks at for a target have the same model for any descriptor of
that target. -/
theorem extract_eq_of_sameInside (tree₁ : d₁.TreeShaped) (tree₂ : d₂.TreeShaped)
    (same : d₁.SameInside d₂ target) {descriptor : Descriptor} (hid : descriptor.id = target)
    {root₁ root₂ : Node} (hb : root₁.bare = root₂.bare)
    (found₁ : d₁.node? descriptor.rootNode = some root₁)
    (found₂ : d₂.node? descriptor.rootNode = some root₂)
    (shown₁ : d₁.WalkRoot target root₁) (shown₂ : d₂.WalkRoot target root₂)
    (members₁ : descriptor.isVariant = true → ∀ n ∈ d₁.otherMembers descriptor, d₁.WalkRoot target n)
    (members₂ : descriptor.isVariant = true → ∀ n ∈ d₂.otherMembers descriptor, d₂.WalkRoot target n) :
    d₁.extract descriptor = d₂.extract descriptor := by
  obtain ⟨rank₁, hr₁, bound₁⟩ := tree₁.exists_rank
  obtain ⟨rank₂, hr₂, bound₂⟩ := tree₂.exists_rank
  have small₁ {n : Node} (h : d₁.WalkRoot target n) : rank₁ n.id < d₁.placements.length :=
    bound₁ _ _ (tree₁.node?_of_walkRoot h)
  have small₂ {n : Node} (h : d₂.WalkRoot target n) : rank₂ n.id < d₂.placements.length :=
    bound₂ _ _ (tree₂.node?_of_walkRoot h)
  apply (simulates_alike tree₁ tree₂ same hr₁ hr₂).extract_eq found₁ found₂
  · have h₁ := small₁ shown₁
    have h₂ := small₂ shown₂
    apply roots_alike tree₁ tree₂ same hr₁ hr₂ hb shown₁ shown₂
    · rw [walkBound]; omega
    · rw [walkBound]; omega
  · intro variant
    have lists : (d₁.otherMembers descriptor).map Node.bare =
        (d₂.otherMembers descriptor).map Node.bare := by
      rw [otherMembers, otherMembers, hid]
      exact filter_map_bare (fun _ => rfl) same.children
    apply forall₂_of_map_bare lists
    intro a ha b hb hab
    have ra := members₁ variant a ha
    have rb := members₂ variant b hb
    exact roots_alike tree₁ tree₂ same hr₁ hr₂ hab ra rb (Nat.le_of_lt (small₁ ra))
      (Nat.le_of_lt (small₂ rb))

end
end Document
end Handoff
