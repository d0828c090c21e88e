import Handoff.Proofs.Scene.Tree
import Handoff.Proofs.Session.Dispatch

/-!
# Which components are discovered

Discovery goes from components up to the sets that hold them, a description goes from a set down to its
first member, and a change goes from any node up to its owner. In a tree the three meet: the components
that are discovered are exactly the targets that can be described and are no icons. So what changes ask
to compile is discovered, unless it cannot be compiled at all.
-/

namespace Handoff.Document

variable {d : Document} {id target : NodeId} {selected : Option NodeId}

/-! ## Targets -/

/-- Whether an id is that of its own target: of a set, or of a component that is no member of one. -/
structure Canonical (d : Document) (id : NodeId) : Prop where
  own : d.compileTarget? id = some id
  alone : ∃ n, d.node? id = some n ∧ d.StandsAlone n

/-- Where every node is found under its own id, targets are canonical. -/
theorem canonical_of_compileTarget? (keyed : d.Keyed) (h : d.compileTarget? id = some target) :
    d.Canonical target :=
  ⟨compileTarget?_of_compileTarget? keyed h, standsAlone_of_compileTarget? keyed h⟩

/-- The target of a component is the set of which it is a member, or else the component. -/
theorem compileTarget?_of_component {n : Node} (hn : d.node? id = some n) (hk : n.kind = .component) :
    d.compileTarget? id =
      match d.parent? id with
      | some p => if p.kind = .componentSet then some p.id else some n.id
      | none => some n.id := by
  cases hparent : d.parent? id with
  | none => simp only [compileTarget?, walkBound, targetFrom, hn, hk, hparent]
  | some p => simp only [compileTarget?, walkBound, targetFrom, hn, hk, hparent]

namespace TreeShaped

variable (tree : d.TreeShaped)
include tree

/-- In a tree, a component that compiles to a set is a member of it. -/
theorem mem_children_of_compileTarget? {c t : Node} (hc : c ∈ d.nodes) (component : c.kind = .component)
    (h : d.compileTarget? c.id = some target) (ht : d.node? target = some t)
    (set : t.kind = .componentSet) : c ∈ d.children target := by
  have found := node?_of_mem tree.linked hc
  have other (same : c.id = target) : False := by
    rw [← same, found] at ht
    cases ht
    rw [component] at set
    cases set
  rw [compileTarget?_of_component found component] at h
  cases hp : d.parent? c.id with
  | none =>
    rw [hp] at h
    exact (other (Option.some.inj h)).elim
  | some p =>
    rw [hp] at h
    by_cases holds : p.kind = .componentSet
    · simp only [holds, if_true, Option.some.injEq] at h
      subst h
      obtain ⟨hpm, hpc⟩ := tree.parent?_eq_some_iff.1 hp
      exact tree.mem_children_iff.2 ⟨hc, p, node?_of_mem tree.linked hpm, hpc⟩
    · simp only [holds, if_false, Option.some.injEq] at h
      exact (other h).elim

/-- In a tree, every component in a set compiles to the set. -/
theorem compileTarget?_of_mem_children {c t : Node} (hc : c ∈ d.children target)
    (component : c.kind = .component) (ht : d.node? target = some t) (set : t.kind = .componentSet) :
    d.compileTarget? c.id = some target := by
  obtain ⟨hcm, p, hp, lists⟩ := tree.mem_children_iff.1 hc
  rw [ht] at hp
  cases hp
  have parent : d.parent? c.id = some t :=
    tree.parent?_eq_some_iff.2 ⟨mem_nodes_of_node? ht, lists⟩
  rw [compileTarget?_of_component (node?_of_mem tree.linked hcm) component, parent]
  simp only [set, if_true, keyed_of_linked tree.linked _ _ ht]

end TreeShaped

/-! ## Owners -/

private theorem mem_nodes_of_mem_ancestorsFrom {n : Node} {fuel : Nat}
    (h : n ∈ d.ancestorsFrom fuel id) : n ∈ d.nodes := by
  induction fuel generalizing id with
  | zero => cases h
  | succ fuel ih =>
    unfold ancestorsFrom at h
    split at h
    · next p hp =>
      rcases List.mem_cons.1 h with rfl | h
      · obtain ⟨_, -, found⟩ := Option.bind_eq_some_iff.1 hp
        exact mem_nodes_of_node? found
      · exact ih h
    · cases h

/-- The owner of a node is a component or a set, and its target is that of the node. -/
theorem exists_owner (h : d.owningTarget? id = some target) :
    ∃ owner ∈ d.nodes, (owner.kind = .component ∨ owner.kind = .componentSet) ∧
      d.compileTarget? owner.id = some target := by
  unfold owningTarget? at h
  split at h
  · cases h
  · next n hn =>
    split at h
    · next owner found =>
      refine ⟨owner, ?_, by simpa [ownsSubtree] using List.find?_some found, h⟩
      rcases List.mem_cons.1 (List.mem_of_find?_eq_some found) with rfl | above
      · exact mem_nodes_of_node? hn
      · exact mem_nodes_of_mem_ancestorsFrom above
    · cases h

/-! ## Descriptions -/

private theorem exists_shownNode_iff {t : Node} : (∃ root, d.shownNode t = .ok root) ↔
    (t.kind = .componentSet → ∃ m ∈ d.children t.id, m.kind = .component) := by
  unfold shownNode
  split
  · next set =>
    simp only [set, forall_const]
    cases found : (d.children t.id).find? (·.kind == .component) with
    | none =>
      have none : ∀ m ∈ d.children t.id, m.kind ≠ .component := by
        simpa using List.find?_eq_none.1 found
      simp only [reduceCtorEq, exists_false, false_iff]
      exact fun ⟨m, hm, component⟩ => none m hm component
    | some m =>
      have component : m.kind = .component := by simpa using List.find?_some found
      simp only [Except.ok.injEq, exists_eq', true_iff]
      exact ⟨m, List.mem_of_find?_eq_some found, component⟩
  · next other => simp [other]

/-- A component can be described if its target exists and, where this is a set, has a member. -/
theorem exists_describe_iff : (∃ found, d.describe id selected = .ok found) ↔
    ∃ target t, d.compileTarget? id = some target ∧ d.node? target = some t ∧
      (t.kind = .componentSet → ∃ m ∈ d.children t.id, m.kind = .component) := by
  simp only [← exists_shownNode_iff]
  unfold describe
  cases hn : d.node? id with
  | none => simp [compileTarget?_of_not_found hn]
  | some n =>
    cases htarget : d.compileTarget? id with
    | none => simp
    | some target =>
      cases ht : d.node? target with
      | none => simp [ht]
      | some t => cases hroot : d.shownNode t <;> simp [ht, hroot]

/-! ## Discovery -/

/-- The components that are discovered: the targets of component nodes that are no icons. -/
theorem mem_discover_iff : id ∈ d.discover.elems ↔
    d.isIcon id = false ∧ ∃ n ∈ d.nodes, n.kind = .component ∧ d.compileTarget? n.id = some id := by
  rw [discover, OrderedSet.mem_ofList, List.mem_filter, List.mem_filterMap, findAll]
  simp only [List.mem_map, List.mem_filter, beq_iff_eq, Bool.not_eq_true']
  constructor
  · rintro ⟨⟨c, ⟨n, ⟨hn, hk⟩, rfl⟩, h⟩, hicon⟩
    exact ⟨hicon, n, hn, hk, h⟩
  · rintro ⟨hicon, n, hn, hk, h⟩
    exact ⟨⟨n.id, ⟨n, ⟨hn, hk⟩, rfl⟩, h⟩, hicon⟩

/-- In a tree, the components that are discovered are the targets that can be described and are no
icons. -/
theorem TreeShaped.mem_discover_iff_described (tree : d.TreeShaped) (selected : Option NodeId) :
    id ∈ d.discover.elems ↔
      d.isIcon id = false ∧ d.Canonical id ∧ ∃ found, d.describe id selected = .ok found := by
  have keyed := keyed_of_linked tree.linked
  rw [mem_discover_iff, exists_describe_iff]
  refine and_congr_right fun _ => ⟨?_, ?_⟩
  · rintro ⟨c, hc, component, target⟩
    have canonical := canonical_of_compileTarget? keyed target
    obtain ⟨t, ht, -⟩ := canonical.alone
    refine ⟨canonical, id, t, canonical.own, ht, fun set => ⟨c, ?_, component⟩⟩
    rw [keyed _ _ ht]
    exact tree.mem_children_of_compileTarget? hc component target ht set
  · rintro ⟨⟨own, t, ht, alone⟩, target, t', own', ht', members⟩
    obtain rfl : id = target := Option.some.inj (own.symm.trans own')
    obtain rfl : t = t' := Option.some.inj (ht.symm.trans ht')
    have hid := keyed _ _ ht
    rcases alone with set | ⟨component, -⟩
    · -- Some member of the set is a component node that compiles to it.
      obtain ⟨m, hm, component⟩ := members set
      rw [hid] at hm
      exact ⟨m, (tree.mem_children_iff.1 hm).1, component,
        tree.compileTarget?_of_mem_children hm component ht set⟩
    · exact ⟨t, mem_nodes_of_node? ht, component, by rw [hid, own]⟩

/-- Discovery and changes name the same components of a tree. Targets and owners are canonical: each is
its own target, and a set or a component that is no member of one. Discovery lists, each once, the targets
of the component nodes without the icons; all of them can be described. Whatever changes ask to compile is
discovered, if it can be described and is no icon. Instances may be nested in any way; a chain of instances
that runs in a circle has no target. -/
theorem components_agree (tree : d.TreeShaped) :
    (∀ id target, d.compileTarget? id = some target → d.Canonical target) ∧
      (∀ id target, d.owningTarget? id = some target → d.Canonical target) ∧
      d.discover.elems.Nodup ∧
      (∀ target, target ∈ d.discover.elems ↔ d.isIcon target = false ∧
        ∃ c ∈ d.nodes, c.kind = .component ∧ d.compileTarget? c.id = some target) ∧
      (∀ target ∈ d.discover.elems, ∀ selected, ∃ found, d.describe target selected = .ok found) ∧
      ∀ changes, ∀ target ∈ (d.updatedTargets changes).elems, d.isIcon target = false →
        ∀ selected found, d.describe target selected = .ok found → target ∈ d.discover.elems := by
  have keyed := keyed_of_linked tree.linked
  have owned {id target : NodeId} (h : d.owningTarget? id = some target) : d.Canonical target := by
    obtain ⟨owner, -, -, targets⟩ := exists_owner h
    exact canonical_of_compileTarget? keyed targets
  refine ⟨fun _ _ => canonical_of_compileTarget? keyed, fun _ _ => owned, d.discover.nodup,
    fun _ => mem_discover_iff, fun target listed selected => ?_,
    fun changes target asked hicon selected found described => ?_⟩
  · exact ((tree.mem_discover_iff_described selected).1 listed).2.2
  · obtain ⟨c, -, changed⟩ := List.mem_filterMap.1 (OrderedSet.mem_ofList.1 asked)
    have owner := (changedTarget?_eq_some_iff.1 changed).2.2
    exact (tree.mem_discover_iff_described selected).2 ⟨hicon, owned owner, found, described⟩

/-- A kit with a set, an empty set, a component inside another one, and an icon. -/
def nestedKit : Document :=
  .filed
    [{ id := "p", name := "Kit", kind := .page, children := ["k", "e", "a", "s"] },
      { id := "k", name := "Chips", kind := .componentSet, children := ["h", "m", "o"] },
      { id := "h", name := "Hint", kind := .text },
      { id := "m", name := "State=Off", kind := .component, children := ["t"] },
      { id := "t", name := "Label", kind := .text },
      { id := "o", name := "State=On", kind := .component, children := ["i"] },
      { id := "i", name := "Star", kind := .componentInstance, mainComponent := some "s" },
      { id := "e", name := "Empty", kind := .componentSet },
      { id := "a", name := "Card", kind := .component, children := ["f"] },
      { id := "f", name := "Body", kind := .frame, children := ["n"] },
      { id := "n", name := "Badge", kind := .component },
      { id := "s", name := "ph:star", kind := .component }]

/-- Changes in the kit ask for both sets and for the inner component. The set with members is discovered
and can be described; the empty one is not discovered. -/
theorem components_agree_nestedKit :
    let renames : List Change := ["t", "i", "n", "e"].map fun id => ⟨.propertyChange, id, ["name"], false⟩
    (nestedKit.updatedTargets renames).elems = ["k", "n", "e"] ∧
      "k" ∈ nestedKit.discover.elems ∧ (∃ found, nestedKit.describe "k" none = .ok found) ∧
      "e" ∉ nestedKit.discover.elems := by
  intro renames
  have tree : nestedKit.TreeShaped :=
    treeShaped_of_rank (by decide +kernel) (by decide +kernel)
      (["t", "i", "h", "n", "m", "o", "f", "k", "e", "a", "s", "p"].idxOf ·) (by decide +kernel)
  have asked : (nestedKit.updatedTargets renames).elems = ["k", "n", "e"] := by decide +kernel
  obtain ⟨-, -, -, -, described, discovered⟩ := components_agree tree
  have describes : (nestedKit.describe "k" none).toOption.isSome = true ∧
      (nestedKit.describe "e" none).toOption.isSome = false := by decide +kernel
  cases hk : nestedKit.describe "k" none with
  | error e =>
    rw [hk] at describes
    cases describes.1
  | ok found =>
    have listed : "k" ∈ nestedKit.discover.elems :=
      discovered renames "k" (by rw [asked]; decide) (by decide +kernel) none found hk
    refine ⟨asked, listed, ⟨found, rfl⟩, fun empty => ?_⟩
    obtain ⟨found, he⟩ := described "e" empty none
    rw [he] at describes
    cases describes.2

end Handoff.Document
