import Handoff.Proofs.Component.Locality

/-!
# Unchanged inspections

Extraction inspects the target, its children, and the children of every node below which a walk goes on.
A later tree whose inspected nodes are all in an earlier tree, unchanged but for plugin data, has the
same walks as the earlier one: nothing that was rendered there can have gone missing unnoticed.
-/

namespace Handoff.Document

/-- The nodes that extraction inspects for a target. -/
inductive Inspected (d : Document) (target : NodeId) : Node → Prop where
  | target {n : Node} : d.node? target = some n → Inspected d target n
  | member {n : Node} : n ∈ d.children target → Inspected d target n
  | below {n m : Node} : d.Opens target n → m ∈ d.children n.id → Inspected d target m

/-- Whether a document finds a node under its id, unchanged but for plugin data. -/
def Finds (d : Document) (n : Node) : Prop := ∃ m, d.node? n.id = some m ∧ m.bare = n.bare

variable {later earlier : Document} {target : NodeId}

/-- Walks go on below inspected nodes. -/
theorem Opens.inspected {n : Node} (h : later.Opens target n) : later.Inspected target n := by
  have root {m : Node} (h : later.WalkRoot target m) : later.Inspected target m := by
    obtain ⟨t, ht, hm⟩ := h
    split at hm
    · exact .member hm.1
    · rw [hm]
      exact .target ht
  rcases h with h | ⟨h, -⟩
  · exact root h
  · cases h with
    | root h => exact root h
    | top h hm => exact .below (.inl h) (List.mem_of_mem_filter hm)
    | deeper h ends hm => exact .below (.inr ⟨h, ends⟩) (List.mem_of_mem_filter hm)

/-- Inspected nodes are nodes of the document. -/
theorem TreeShaped.node?_of_inspected (tree : later.TreeShaped) {n : Node}
    (h : later.Inspected target n) : later.node? n.id = some n := by
  cases h with
  | target h => rw [keyed_of_linked tree.linked _ _ h, h]
  | member h => exact node?_of_mem tree.linked (tree.mem_children_iff.1 h).1
  | below _ h => exact node?_of_mem tree.linked (tree.mem_children_iff.1 h).1

private theorem exists_of_map_bare {l₁ l₂ : List Node} (h : l₁.map Node.bare = l₂.map Node.bare)
    {a : Node} (ha : a ∈ l₁) : ∃ b ∈ l₂, b.bare = a.bare := by
  have mem : a.bare ∈ l₂.map Node.bare := by
    rw [← h]
    exact List.mem_map_of_mem ha
  exact List.mem_map.1 mem

/-- Walks visit the same nodes in two documents if the targets, their children, and the rendered children below
which both walks go on are the same. -/
private theorem visited_of_same {d₁ d₂ : Document} {t₁ t₂ : Node} (ht₁ : d₁.node? target = some t₁)
    (ht₂ : d₂.node? target = some t₂) (targets : t₁.bare = t₂.bare)
    (members : (d₁.children target).map Node.bare = (d₂.children target).map Node.bare)
    (rendered : ∀ n m, d₁.Opens target n → d₂.Opens target m → n.bare = m.bare →
      (d₁.renderedChildren n.id).map Node.bare = (d₂.renderedChildren m.id).map Node.bare) {n : Node}
    (h : d₁.Visited target n) : ∃ m, d₂.Visited target m ∧ m.bare = n.bare := by
  have root {n : Node} (h : d₁.WalkRoot target n) : ∃ m, d₂.WalkRoot target m ∧ m.bare = n.bare := by
    have kind := Node.kind_eq_of_bare targets
    obtain ⟨t, ht, h⟩ := h
    cases ht₁.symm.trans ht
    split at h
    · next set =>
      obtain ⟨m, hm, same⟩ := exists_of_map_bare members h.1
      refine ⟨m, ⟨t₂, ht₂, ?_⟩, same⟩
      rw [if_pos (kind ▸ set)]
      exact ⟨hm, (Node.kind_eq_of_bare same).trans h.2⟩
    · next other =>
      subst h
      refine ⟨t₂, ⟨t₂, ht₂, ?_⟩, targets.symm⟩
      rw [if_neg (kind ▸ other)]
  -- The children below a node are known to be the same only if both walks go on there.
  induction h with
  | root h =>
    obtain ⟨m, found, same⟩ := root h
    exact ⟨m, .root found, same⟩
  | top h hm =>
    obtain ⟨p, found, same⟩ := root h
    obtain ⟨m, child, hm⟩ := exists_of_map_bare (rendered _ p (.inl h) (.inl found) same.symm) hm
    exact ⟨m, .top found child, hm⟩
  | deeper h ends hm ih =>
    obtain ⟨p, visited, same⟩ := ih
    have goes := (endsWalk_eq_of_bare same).trans ends
    obtain ⟨m, child, hm⟩ :=
      exists_of_map_bare (rendered _ p (.inr ⟨h, ends⟩) (.inr ⟨visited, goes⟩) same.symm) hm
    exact ⟨m, .deeper visited goes child, hm⟩

section

variable (tree : later.TreeShaped) (unchanged : ∀ n, later.Inspected target n → earlier.Finds n)
include tree unchanged

private theorem children_bare_eq {n : Node} (h : later.Inspected target n)
    (each : ∀ m ∈ later.children n.id, later.Inspected target m) :
    (later.children n.id).map Node.bare = (earlier.children n.id).map Node.bare := by
  have hn := tree.node?_of_inspected h
  obtain ⟨m, hm, hb⟩ := unchanged n h
  have lists : m.children = n.children := children_eq_of_bare hb
  have found : ∀ c ∈ n.children,
      (later.node? c).map Node.bare = (earlier.node? c).map Node.bare := by
    intro c hc
    obtain ⟨a, ha⟩ := exists_child tree.linked (mem_nodes_of_node? hn) hc
    have hid := keyed_of_linked tree.linked _ _ ha
    have child : a ∈ later.children n.id := by
      rw [tree.mem_children_iff, hid]
      exact ⟨mem_nodes_of_node? ha, n, hn, hc⟩
    obtain ⟨b, hb, hab⟩ := unchanged a (each a child)
    rw [hid] at hb
    rw [ha, hb, Option.map_some, Option.map_some, hab]
  simp only [children, hn, hm, lists, List.map_filterMap]
  exact List.filterMap_congr found

private theorem renderedChildren_bare_eq_of_opens {n : Node} (opens : later.Opens target n) :
    (later.renderedChildren n.id).map Node.bare = (earlier.renderedChildren n.id).map Node.bare :=
  filter_map_bare (fun _ => rfl)
    (children_bare_eq tree unchanged opens.inspected fun _ hm => .below opens hm)

private theorem members_bare_eq {t : Node} (ht : later.node? target = some t) :
    (later.children target).map Node.bare = (earlier.children target).map Node.bare := by
  have hid := keyed_of_linked tree.linked _ _ ht
  have each : ∀ m ∈ later.children t.id, later.Inspected target m := by
    rw [hid]
    exact fun m hm => .member hm
  have same := children_bare_eq tree unchanged (.target ht) each
  rw [hid] at same
  exact same

/-- A later tree whose inspected nodes are unchanged agrees with the earlier one on what extraction looks
at, as far as looks and references do. -/
theorem sameInside_of_inspected {t : Node} (ht : later.node? target = some t)
    (looks : ∀ n, later.Visited target n → Style.resolve later n = Style.resolve earlier n)
    (references : ∀ n, later.Visited target n → ∀ r ∈ n.references, SameReference later earlier r) :
    later.SameInside earlier target := by
  obtain ⟨t', ht', hb⟩ := unchanged t (.target ht)
  rw [keyed_of_linked tree.linked _ _ ht] at ht'
  have members := members_bare_eq tree unchanged ht
  have rendered {n m : Node} (opens : later.Opens target n) (same : n.bare = m.bare) :
      (later.renderedChildren n.id).map Node.bare = (earlier.renderedChildren m.id).map Node.bare := by
    rw [renderedChildren_bare_eq_of_opens tree unchanged opens, Node.id_eq_of_bare same]
  exact
    { node := by rw [ht, ht', Option.map_some, Option.map_some, hb]
      children := members
      visited := by
        intro n
        constructor
        · rintro ⟨m, hm, rfl⟩
          exact visited_of_same ht ht' hb.symm members (fun _ _ opens _ => rendered opens) hm
        · rintro ⟨m, hm, rfl⟩
          exact visited_of_same ht' ht hb members.symm
            (fun _ _ _ opens same => (rendered opens same.symm).symm) hm
      looks, references }

end

end Handoff.Document
