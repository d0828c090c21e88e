import Handoff.Bundle.Compile
import Handoff.Proofs.Component.Locality

/-!
# Compilation is local

What is compiled for a target depends on the document's selection, variables, paint styles and icons, on
the target with its children, on the kinds and names of its ancestors, on the nodes that the walks of the
target visit, and on what these refer to. Nothing else in the document matters, and no plugin data.
-/

namespace Handoff

namespace Document

/-! ## The described target -/

section

variable {d : Document} {target : NodeId}

/-- The node that a target shows is one at which its walks start. -/
theorem walkRoot_of_shownNode (tree : d.TreeShaped) {n : Node} (hn : d.node? target = some n)
    {root : NodeId} (h : d.shownNode n = .ok root) :
    ∃ r, d.node? root = some r ∧ d.WalkRoot target r := by
  have hid := keyed_of_linked tree.linked _ _ hn
  unfold shownNode at h
  split at h
  · next hk =>
    split at h
    · next member hm =>
      cases h
      rw [hid] at hm
      have mem := List.mem_of_find?_eq_some hm
      have hkind : member.kind = .component := by simpa using List.find?_some hm
      refine ⟨member, node?_of_mem tree.linked (tree.mem_children_iff.1 mem).1, n, hn, ?_⟩
      rw [if_pos hk]
      exact ⟨mem, hkind⟩
    · cases h
  · next hk =>
    cases h
    rw [hid]
    exact ⟨n, hn, n, hn, by rw [if_neg hk]⟩

/-- The other members of a set are nodes at which its walks start. -/
theorem walkRoot_of_mem_otherMembers {n : Node} (hn : d.node? target = some n)
    (hk : n.kind = .componentSet) {descriptor : Descriptor} (hid : descriptor.id = target) {m : Node}
    (h : m ∈ d.otherMembers descriptor) : d.WalkRoot target m := by
  rw [otherMembers, hid, List.mem_filter, Bool.and_eq_true] at h
  refine ⟨n, hn, ?_⟩
  rw [if_pos hk]
  exact ⟨h.1, by simpa using h.2.1⟩

end

section

variable {d₁ d₂ : Document} {target : NodeId}

private theorem find?_bare {p : Node → Bool} (hp : ∀ n, p n.bare = p n) {l₁ l₂ : List Node}
    (h : l₁.map Node.bare = l₂.map Node.bare) :
    (l₁.find? p).map Node.bare = (l₂.find? p).map Node.bare := by
  have same : p ∘ Node.bare = p := funext hp
  have first := List.find?_map (p := p) (f := Node.bare) (l := l₁)
  have second := List.find?_map (p := p) (f := Node.bare) (l := l₂)
  rw [same] at first second
  rw [← first, ← second, h]

/-- Targets with the same children show the same node. -/
theorem shownNode_eq (tree₁ : d₁.TreeShaped) (same : d₁.SameInside d₂ target) {n m : Node}
    (hn : d₁.node? target = some n) (hm : d₂.node? target = some m) :
    d₁.shownNode n = d₂.shownNode m := by
  have hb : n.bare = m.bare := by
    have := same.node
    rw [hn, hm] at this
    exact Option.some.inj this
  have members := find?_bare (p := (·.kind == .component)) (fun _ => rfl) same.children
  rw [shownNode, shownNode, ← Node.kind_eq_of_bare hb, ← Node.name_eq_of_bare hb,
    ← Node.id_eq_of_bare hb, keyed_of_linked tree₁.linked _ _ hn]
  split
  · cases h₁ : (d₁.children target).find? (·.kind == .component) with
    | none =>
      rw [h₁] at members
      rw [Option.map_eq_none_iff.1 members.symm]
    | some a =>
      rw [h₁] at members
      obtain ⟨b, h₂, hab⟩ := Option.map_eq_some_iff.1 members.symm
      simp only [h₂, Node.id_eq_of_bare hab]
  · rfl

private theorem shown_bare_eq (tree₁ : d₁.TreeShaped) (tree₂ : d₂.TreeShaped)
    (same : d₁.SameInside d₂ target) {a b : Node} {id : NodeId} (ha : d₁.node? id = some a)
    (hb : d₂.node? id = some b) (root : d₁.WalkRoot target a) : a.bare = b.bare := by
  obtain ⟨m, visited, hm⟩ := (same.visited a.bare).1 ⟨a, .root root, rfl⟩
  have found := tree₂.node?_of_visited visited
  rw [Node.id_eq_of_bare hm, keyed_of_linked tree₁.linked _ _ ha, hb] at found
  cases found
  exact hm.symm

/-- Trees that agree on what extraction looks at for a target have the same model for a descriptor
that fits it. -/
theorem extract_eq_of_describes (tree₁ : d₁.TreeShaped) (tree₂ : d₂.TreeShaped)
    (same : d₁.SameInside d₂ target) {n m : Node} (hn : d₁.node? target = some n)
    (hm : d₂.node? target = some m) {descriptor : Descriptor} (hid : descriptor.id = target)
    (shown : d₁.shownNode n = .ok descriptor.rootNode)
    (variant : descriptor.isVariant = (n.kind == .componentSet)) :
    d₁.extract descriptor = d₂.extract descriptor := by
  have hb : n.bare = m.bare := by
    have := same.node
    rw [hn, hm] at this
    exact Option.some.inj this
  obtain ⟨a, ha, root₁⟩ := walkRoot_of_shownNode tree₁ hn shown
  rw [shownNode_eq tree₁ same hn hm] at shown
  obtain ⟨b, hb', root₂⟩ := walkRoot_of_shownNode tree₂ hm shown
  have set₁ (h : descriptor.isVariant = true) : n.kind = .componentSet := by
    rw [variant] at h
    simpa using h
  refine extract_eq_of_sameInside tree₁ tree₂ same hid
    (shown_bare_eq tree₁ tree₂ same ha hb' root₁) ha hb' root₁ root₂ ?_ ?_
  · intro h a ha
    exact walkRoot_of_mem_otherMembers hn (set₁ h) hid ha
  · intro h a ha
    exact walkRoot_of_mem_otherMembers hm (Node.kind_eq_of_bare hb ▸ set₁ h) hid ha

/-! ## Selected members -/

/-- In a tree the selected child of a node is the last selected node that it lists. -/
theorem TreeShaped.selectedChild?_eq {d : Document} (tree : d.TreeShaped) {n : Node}
    (hn : d.node? target = some n) :
    d.selectedChild? target = d.selection.reverse.find? (n.children.contains ·) := by
  have hid := keyed_of_linked tree.linked _ _ hn
  have hmem := mem_nodes_of_node? hn
  show d.selection.reverse.find? _ = _
  congr 1
  funext selected
  rw [Bool.eq_iff_iff]
  constructor
  · intro h
    split at h
    · next p hp =>
      obtain ⟨hpm, hpc⟩ := tree.parent?_eq_some_iff.1 hp
      have found := node?_of_mem tree.linked hpm
      rw [show p.id = target by simpa using h, hn] at found
      cases found
      simpa using hpc
    · cases h
  · intro h
    have listed : selected ∈ n.children := by simpa using h
    rw [tree.parent?_eq_some_iff.2 ⟨hmem, listed⟩]
    simp [hid]

/-- In a tree the values of the selected child of a target are its variant properties. -/
theorem TreeShaped.selectedValues_eq {d : Document} (tree : d.TreeShaped) {n : Node}
    (hn : d.node? target = some n) :
    d.selectedValues n (d.selectedChild? target) =
      match d.selectedChild? target with
      | none => []
      | some selected => ((d.node? selected).map (·.variantProperties.entries)).getD [] := by
  have hid := keyed_of_linked tree.linked _ _ hn
  have hmem := mem_nodes_of_node? hn
  cases hs : d.selectedChild? target with
  | none => rfl
  | some selected =>
    have listed : selected ∈ n.children := by
      rw [tree.selectedChild?_eq hn] at hs
      simpa using List.find?_some hs
    have parent := tree.parent?_eq_some_iff.2 ⟨hmem, listed⟩
    obtain ⟨parentId, hlink, hparent⟩ := Option.bind_eq_some_iff.1 parent
    obtain ⟨place, hplace, hlink⟩ := Option.bind_eq_some_iff.1 hlink
    have linkId : parentId = n.id := (keyed_of_linked tree.linked _ _ hparent).symm
    simp only [selectedValues, Option.bind_some, hplace, node?, Option.map_some, Option.getD_some]
    rw [if_pos (by rw [hlink, linkId])]

/-- Whether two documents agree on all that compiling a target looks at. Plugin data is left out
throughout, and of references only what they lead to counts. -/
structure AgreeOn (d₁ d₂ : Document) (target : NodeId) : Prop where
  selection : d₁.selection = d₂.selection
  collections : d₁.collections = d₂.collections
  localVariables : d₁.localVariables = d₂.localVariables
  paintStyles : d₁.paintStyles = d₂.paintStyles
  iconSources : d₁.iconSources = d₂.iconSources
  node : (d₁.node? target).map Node.bare = (d₂.node? target).map Node.bare
  children : (d₁.children target).map Node.bare = (d₂.children target).map Node.bare
  ancestors : (d₁.ancestors target).map (fun n => (n.kind, n.name)) =
    (d₂.ancestors target).map fun n => (n.kind, n.name)
  visited : ∀ n, (∃ m, d₁.Visited target m ∧ m.bare = n) ↔ ∃ m, d₂.Visited target m ∧ m.bare = n
  references : ∀ n, d₁.Visited target n → ∀ r ∈ n.references, SameReference d₁ d₂ r

namespace AgreeOn

variable (agree : d₁.AgreeOn d₂ target)
include agree

private theorem sameInside : d₁.SameInside d₂ target where
  node := agree.node
  children := agree.children
  visited := agree.visited
  looks _ _ := resolve_congr agree.localVariables rfl
  references := agree.references

private theorem ancestorOfKind?_name (kind : NodeKind) :
    (d₁.ancestorOfKind? target kind).map (·.name) = (d₂.ancestorOfKind? target kind).map (·.name) := by
  have named (l : List Node) : (l.find? (·.kind == kind)).map (·.name) =
      ((l.map fun n => (n.kind, n.name)).find? (·.1 == kind)).map Prod.snd := by
    rw [List.find?_map, Option.map_map]
    rfl
  rw [ancestorOfKind?, ancestorOfKind?, named, named, agree.ancestors]

private theorem parent?_kind : (d₁.parent? target).map (·.kind) = (d₂.parent? target).map (·.kind) := by
  have first (d : Document) : (d.parent? target).map (·.kind) =
      ((d.ancestors target).map fun n => (n.kind, n.name)).head?.map Prod.fst := by
    rw [Document.ancestors, walkBound, ancestorsFrom]
    cases d.parent? target <;> rfl
  rw [first, first, agree.ancestors]

private theorem compileTarget?_eq (tree₁ : d₁.TreeShaped) (tree₂ : d₂.TreeShaped) {n m : Node}
    (hn : d₁.node? target = some n) (hm : d₂.node? target = some m) (hb : n.bare = m.bare)
    (h : d₁.compileTarget? target = some target) : d₂.compileTarget? target = some target := by
  apply compileTarget?_of_standsAlone (keyed_of_linked tree₂.linked) hm
  obtain ⟨n', hn', alone⟩ := standsAlone_of_compileTarget? (keyed_of_linked tree₁.linked) h
  rw [hn] at hn'
  cases hn'
  have id₁ := keyed_of_linked tree₁.linked _ _ hn
  have id₂ := keyed_of_linked tree₂.linked _ _ hm
  rw [StandsAlone, ← Node.kind_eq_of_bare hb, id₂]
  rcases alone with hk | ⟨hk, hp⟩
  · exact .inl hk
  · refine .inr ⟨hk, ?_⟩
    intro p hparent
    have kinds := agree.parent?_kind
    rw [hparent] at kinds
    obtain ⟨q, hq, hqp⟩ := Option.map_eq_some_iff.1 kinds
    have same : p.kind = q.kind := hqp.symm
    rw [same]
    rw [id₁] at hp
    exact hp q hq

private theorem selectedValues_eq (tree₁ : d₁.TreeShaped) (tree₂ : d₂.TreeShaped) {n m : Node}
    (hn : d₁.node? target = some n) (hm : d₂.node? target = some m) (hb : n.bare = m.bare) :
    d₁.selectedValues n (d₁.selectedChild? target) =
      d₂.selectedValues m (d₂.selectedChild? target) := by
  have selected : d₁.selectedChild? target = d₂.selectedChild? target := by
    rw [tree₁.selectedChild?_eq hn, tree₂.selectedChild?_eq hm, agree.selection,
      children_eq_of_bare hb]
  rw [tree₁.selectedValues_eq hn, tree₂.selectedValues_eq hm, selected]
  cases hs : d₂.selectedChild? target with
  | none => rfl
  | some child =>
    -- The selected child is among the children, on which the documents agree.
    have listed : child ∈ n.children := by
      rw [tree₂.selectedChild?_eq hm, ← children_eq_of_bare hb] at hs
      simpa using List.find?_some hs
    obtain ⟨a, ha⟩ := exists_child tree₁.linked (mem_nodes_of_node? hn) listed
    have haid := keyed_of_linked tree₁.linked _ _ ha
    have mem : a ∈ d₁.children target := by
      rw [tree₁.mem_children_iff, haid]
      exact ⟨mem_nodes_of_node? ha, n, hn, listed⟩
    have mem' : a.bare ∈ (d₂.children target).map Node.bare := by
      rw [← agree.children]
      exact List.mem_map_of_mem mem
    obtain ⟨b, hb', hab⟩ := List.mem_map.1 mem'
    have found := node?_of_mem tree₂.linked (tree₂.mem_children_iff.1 hb').1
    rw [Node.id_eq_of_bare hab, haid] at found
    have values : a.variantProperties = b.variantProperties :=
      Node.eq_of_bare (fun _ => rfl) hab.symm
    simp only [ha, found, Option.map_some, values]

private theorem describe_eq (tree₁ : d₁.TreeShaped) (tree₂ : d₂.TreeShaped) {n m : Node}
    (hn : d₁.node? target = some n) (hm : d₂.node? target = some m) (hb : n.bare = m.bare)
    (h : d₁.compileTarget? target = some target) :
    d₁.describe target (d₁.selectedChild? target) =
      d₂.describe target (d₂.selectedChild? target) := by
  have id₁ := keyed_of_linked tree₁.linked _ _ hn
  have id₂ := keyed_of_linked tree₂.linked _ _ hm
  have page := agree.ancestorOfKind?_name .page
  have inSection := agree.ancestorOfKind?_name .section
  have values := agree.selectedValues_eq tree₁ tree₂ hn hm hb
  have shown := shownNode_eq tree₁ agree.sameInside hn hm
  have definitions : n.propertyDefinitions = m.propertyDefinitions :=
    Node.eq_of_bare (fun _ => rfl) hb
  have description : n.description = m.description :=
    Node.eq_of_bare (fun _ => rfl) hb
  have links : n.documentationLinks = m.documentationLinks :=
    Node.eq_of_bare (fun _ => rfl) hb
  simp only [describe, hn, hm, h, agree.compileTarget?_eq tree₁ tree₂ hn hm hb h, pageOf?, id₁, id₂,
    page, inSection, values, shown, definitions, description, links, Node.kind_eq_of_bare hb,
    Node.name_eq_of_bare hb]

end AgreeOn

/-- The descriptor of a target has its id, the node that it shows, and whether it is a set. -/
theorem shownNode_of_describe {d : Document} (keyed : d.Keyed) {n : Node}
    (hn : d.node? target = some n) (h : d.compileTarget? target = some target)
    {selected : Option NodeId} {descriptor : Descriptor}
    (described : d.describe target selected = .ok descriptor) :
    descriptor.id = target ∧ d.shownNode n = .ok descriptor.rootNode ∧
      descriptor.isVariant = (n.kind == .componentSet) := by
  obtain ⟨target', t, targets, found, shown, carried, -, variant, -⟩ := shown_of_describe described
  cases h.symm.trans targets
  cases hn.symm.trans found
  exact ⟨carried.trans (keyed _ _ hn), shown, variant⟩

/-- Compilation is local: trees that agree on all that compiling a target looks at compile it alike,
to the same bundle or the same error. -/
theorem compile_eq_of_agreeOn (tree₁ : d₁.TreeShaped) (tree₂ : d₂.TreeShaped) {id : NodeId}
    (isTarget : d₁.compileTarget? id = some target) (agree : d₁.AgreeOn d₂ target)
    (settings : Settings) : d₁.compile settings target = d₂.compile settings target := by
  have own := compileTarget?_of_compileTarget? (keyed_of_linked tree₁.linked) isTarget
  obtain ⟨n, hn, -⟩ := standsAlone_of_compileTarget? (keyed_of_linked tree₁.linked) isTarget
  have node := agree.node
  rw [hn, Option.map_some] at node
  obtain ⟨m, hm, hb⟩ := Option.map_eq_some_iff.1 node.symm
  apply compile_congr agree.collections agree.localVariables agree.paintStyles agree.iconSources
  · exact agree.describe_eq tree₁ tree₂ hn hm hb.symm own
  · intro descriptor described
    obtain ⟨hid, shown, variant⟩ :=
      shownNode_of_describe (keyed_of_linked tree₁.linked) hn own described
    exact extract_eq_of_describes tree₁ tree₂ agree.sameInside hn hm hid shown variant

end

/-! ## Two galleries -/

/-- The card of a gallery, with plugin data. -/
def galleryCard (pluginData : PluginData) : Node :=
  { id := "a", name := "Card", kind := .component, children := ["f"], pluginData }

/-- The body of a card. -/
def galleryBody : Node := { id := "f", name := "Body", kind := .frame, children := ["i", "h"] }

/-- The use of a button in the body of a card. -/
def galleryUse : Node :=
  { id := "i", name := "Action", kind := .componentInstance, mainComponent := some "b" }

/-- A hidden panel in the body of a card. -/
def galleryHint : Node := { id := "h", name := "Hint", kind := .frame, visible := false }

/-- A page with a card and a button, and with a panel in the body of the card. -/
def galleryOf (card panel button : Node) (others : List Node) : Document :=
  let page : Node := { id := "p", name := "Gallery", kind := .page, children := ["a", "b"] }
  let nodes := [page, card, galleryBody, galleryUse, panel, button] ++ others
  { name := "", placements := nodes.map fun n => ⟨n, some n.id, lastParent? nodes n.id⟩ }

/-- A gallery with an empty button. -/
def gallery : Document :=
  galleryOf (galleryCard .empty) galleryHint { id := "b", name := "Button", kind := .component } []

/-- Plugin data that some tool keeps on a card. -/
def galleryNotes : PluginData :=
  SortedMap.empty.insert "notes" (SortedMap.empty.insert "seen" "yes")

/-- A gallery with plugin data on the card, another hidden panel, and a button with a label. -/
def laterGallery : Document :=
  galleryOf (galleryCard galleryNotes) { id := "h", name := "Help", kind := .text, visible := false }
    { id := "b", name := "Button", kind := .component, children := ["t"] }
    [{ id := "t", name := "Label", kind := .text }]

/-- The walks of the card visit the card, its body, and the use of the button. -/
theorem visited_gallery {d : Document} {target : NodeId} (card : Node)
    (found : d.node? target = some card) (component : card.kind = .component)
    (first : d.renderedChildren card.id = [galleryBody])
    (second : d.renderedChildren galleryBody.id = [galleryUse]) {n : Node} :
    d.Visited target n ↔ n ∈ [card, galleryBody, galleryUse] := by
  have root {m : Node} : d.WalkRoot target m ↔ m = card := by
    simp [WalkRoot, found, component]
  constructor
  · intro h
    induction h with
    | root h => simp [root.1 h]
    | top h hm =>
      rw [root.1 h, first] at hm
      simp [List.mem_singleton.1 hm]
    | @deeper n m _ ends hm ih =>
      simp only [List.mem_cons, List.not_mem_nil, or_false] at ih
      rcases ih with rfl | rfl | rfl
      · rw [first] at hm
        simp [List.mem_singleton.1 hm]
      · rw [second] at hm
        simp [List.mem_singleton.1 hm]
      · cases ends
  · intro h
    have frame : d.Visited target galleryBody :=
      .top (root.2 rfl) (by rw [first]; exact List.mem_singleton_self _)
    simp only [List.mem_cons, List.not_mem_nil, or_false] at h
    rcases h with rfl | rfl | rfl
    · exact .root (root.2 rfl)
    · exact frame
    · exact .deeper frame rfl (by rw [second]; exact List.mem_singleton_self _)

/-- The card of a gallery compiles alike whatever plugin data, hidden panels and buttons hold. -/
theorem compile_galleryCard_eq :
    (gallery.compile {} "a").2.toOption.isSome = true ∧
      gallery.compile {} "a" = laterGallery.compile {} "a" := by
  have tree₁ : gallery.TreeShaped :=
    treeShaped_of_rank (by decide +kernel) (by decide +kernel)
      (["i", "h", "t", "f", "a", "b", "p"].idxOf ·) (by decide +kernel)
  have tree₂ : laterGallery.TreeShaped :=
    treeShaped_of_rank (by decide +kernel) (by decide +kernel)
      (["i", "h", "t", "f", "a", "b", "p"].idxOf ·) (by decide +kernel)
  have visited₁ (n : Node) : gallery.Visited "a" n ↔ _ :=
    visited_gallery (galleryCard .empty) (by decide +kernel) rfl (by decide +kernel)
      (by decide +kernel)
  have visited₂ (n : Node) : laterGallery.Visited "a" n ↔ _ :=
    visited_gallery (galleryCard galleryNotes) (by decide +kernel) rfl (by decide +kernel)
      (by decide +kernel)
  have references : ∀ n ∈ [galleryCard .empty, galleryBody, galleryUse], ∀ r ∈ n.references,
      SameReference gallery laterGallery r := by
    unfold SameReference
    decide +kernel
  have target : gallery.compileTarget? "a" = some "a" := by decide +kernel
  refine ⟨by decide +kernel, compile_eq_of_agreeOn tree₁ tree₂ target ?_ {}⟩
  exact
    { selection := rfl
      collections := rfl
      localVariables := rfl
      paintStyles := rfl
      iconSources := by decide +kernel
      node := by decide +kernel
      children := by decide +kernel
      ancestors := by decide +kernel
      visited := by
        intro n
        simp only [visited₁, visited₂, ← List.mem_map]
        rfl
      references := fun n h => references n ((visited₁ n).1 h) }

end Document
end Handoff
