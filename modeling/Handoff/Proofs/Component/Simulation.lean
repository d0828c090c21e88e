import Handoff.Proofs.Scene.Mapping
import Mathlib.Data.List.Forall2

/-!
# Walks over related documents

Extraction looks at a document through few questions: what renders below a node, which bytes a node
exports, how a variable is called, and what a reference leads to. Two documents that answer these alike
along a walk, for nodes that differ in plugin data at most, have the same model.
-/

namespace Handoff

/-- The node that a swap property names, unless it is bound to another property. -/
def InstanceProperty.swapTarget? (p : InstanceProperty) : Option NodeId :=
  if p.boundTo.isNone && p.kind == .instanceSwap then p.value.text? else none

/-- The nodes that a node names as main component or swap value. -/
def Node.references (n : Node) : List NodeId :=
  n.mainComponent.toList ++ n.componentProperties.values.filterMap (·.swapTarget?)

/-- Whether a walk goes no deeper at a node. -/
def Node.endsWalk (n : Node) : Bool :=
  n.propertyReferences.mainComponent.isSome || n.kind.isAsset || n.kind == .componentInstance
    || n.kind == .text

namespace Document

/-- Whether a reference leads to the same name and the same target in two documents. -/
def SameReference (d₁ d₂ : Document) (id : NodeId) : Prop :=
  (d₁.node? id).map (·.name) = (d₂.node? id).map (·.name) ∧ d₁.targetName? id = d₂.targetName? id

/-- A relation between the nodes of two walks, each with the depth that is left, under which both
documents answer alike. -/
structure Simulates (d₁ d₂ : Document) (R : Nat → Node → Nat → Node → Prop) : Prop where
  depth : ∀ {f n g m}, R f n g m → (f = 0 ↔ g = 0)
  bare : ∀ {f n g m}, R f n g m → n.bare = m.bare
  looks : ∀ {f n g m}, R f n g m → Style.resolve d₁ n = Style.resolve d₂ m
  found : ∀ {f n g m}, R f n g m → (d₁.node? n.id).map Node.bare = (d₂.node? m.id).map Node.bare
  references : ∀ {f n g m}, R f n g m → ∀ r ∈ n.references, SameReference d₁ d₂ r
  below : ∀ {f n g m}, R (f + 1) n (g + 1) m → n.endsWalk = false →
    List.Forall₂ (fun a b => R f a g b) (d₁.renderedChildren n.id) (d₂.renderedChildren m.id)

/-- What renders below a node belongs to the document. -/
theorem mem_nodes_of_mem_renderedChildren {d : Document} {id : NodeId} {n : Node}
    (h : n ∈ d.renderedChildren id) : n ∈ d.nodes :=
  mem_nodes_of_mem_children (List.mem_of_mem_filter h)

/-! ## What one node contributes -/

/-- Plugin data has no looks. -/
theorem resolve_bare (d : Document) (n : Node) : Style.resolve d n.bare = Style.resolve d n := rfl

/-- Plugin data does not matter for the entry of a node. -/
theorem visit_bare (d : Document) (fuel : Nat) (n : Node) (s : Capture) :
    d.visit fuel n.bare s = d.visit fuel n s := by
  cases fuel <;> rfl

/-- Looks depend on the node and the variables. -/
theorem resolve_congr {d₁ d₂ : Document} (h : d₁.localVariables = d₂.localVariables) {n m : Node}
    (hb : n.bare = m.bare) : Style.resolve d₁ n = Style.resolve d₂ m := by
  rw [← resolve_bare d₁, hb, resolve_bare]
  cases d₁
  cases d₂
  cases h
  rfl

/-- Exports depend on the node that is found. -/
theorem exportAsset_congr {d₁ d₂ : Document} {id : NodeId}
    (h : (d₁.node? id).map Node.bare = (d₂.node? id).map Node.bare) :
    d₁.exportAsset id = d₂.exportAsset id := by
  unfold exportAsset
  cases h₁ : d₁.node? id with
  | none =>
    rw [h₁] at h
    rw [Option.map_eq_none_iff.1 h.symm]
  | some n =>
    rw [h₁] at h
    obtain ⟨m, hm, hb⟩ := Option.map_eq_some_iff.1 h.symm
    have exported : m.bare.exported = n.bare.exported := by rw [hb]
    change m.exported = n.exported at exported
    simp only [hm, exported]

private theorem attributeOf_congr {d₁ d₂ : Document} {e : String × InstanceProperty}
    (h : ∀ r ∈ e.2.swapTarget?, SameReference d₁ d₂ r) (s : Capture) :
    d₁.attributeOf s e = d₂.attributeOf s e := by
  unfold attributeOf
  cases hb : e.2.boundTo with
  | some bound => rfl
  | none =>
    cases hk : e.2.kind with
    | instanceSwap =>
      cases ht : e.2.value.text? with
      | none => rfl
      | some r =>
        have same := h r (by simp [InstanceProperty.swapTarget?, hb, hk, ht])
        simp only [Option.bind_some, same.2]
    | _ => rfl

private theorem attributes_congr {d₁ d₂ : Document} {l : List (String × InstanceProperty)}
    (h : ∀ e ∈ l, ∀ r ∈ e.2.swapTarget?, SameReference d₁ d₂ r) (s : Capture) :
    d₁.attributes s l = d₂.attributes s l := by
  induction l generalizing s with
  | nil => rfl
  | cons e rest ih =>
    have others := fun s => ih (fun e he => h e (List.mem_cons_of_mem _ he)) s
    simp only [attributes, attributeOf_congr (h e List.mem_cons_self), others]

/-- What an instance renders depends on the instance and on what its references lead to. -/
theorem instanceUse_congr {d₁ d₂ : Document} {n : Node}
    (h : ∀ r ∈ n.references, SameReference d₁ d₂ r) (s : Capture) :
    d₁.instanceUse s n = d₂.instanceUse s n := by
  unfold instanceUse
  cases hmain : n.mainComponent with
  | none => rfl
  | some main =>
    have same := h main (by simp [Node.references, hmain])
    have swaps : ∀ e ∈ PropertyOrder.sortBy PropertyOrder.display (fun e => (e.1, e.2.kind))
        n.componentProperties.entries, ∀ r ∈ e.2.swapTarget?, SameReference d₁ d₂ r := by
      intro e he r hr
      have mem := (PropertyOrder.sortBy_perm _ _ _).mem_iff.1 he
      apply h
      apply List.mem_append_right
      exact List.mem_filterMap.2 ⟨e.2, List.mem_map_of_mem mem, hr⟩
    have uses (s : Capture) := attributes_congr swaps s
    have names := same.1
    cases h₁ : d₁.node? main with
    | none =>
      rw [h₁] at names
      have h₂ := Option.map_eq_none_iff.1 names.symm
      simp only [h₁, h₂]
    | some a =>
      rw [h₁] at names
      obtain ⟨b, h₂, hname⟩ := Option.map_eq_some_iff.1 names.symm
      have used : d₁.mainUse s n a main = d₂.mainUse s n b main := by
        simp only [mainUse, hname, same.2]
      simp only [h₁, h₂, used, uses]

/-! ## Walks -/

private theorem visitEach_congr {v₁ v₂ : Node → Capture → Capture × Except CompileError Entry}
    {l₁ l₂ : List Node} (h : List.Forall₂ (fun n m => ∀ s, v₁ n s = v₂ m s) l₁ l₂) (s : Capture) :
    visitEach v₁ l₁ s = visitEach v₂ l₂ s := by
  induction h generalizing s with
  | nil => rfl
  | cons first _ ih => simp only [visitEach, first, ih]

private theorem endsWalk_eq_false {n : Node}
    (hswap : n.propertyReferences.mainComponent.isSome = false) (hasset : n.kind.isAsset = false)
    (huse : n.kind ≠ .componentInstance) (htext : n.kind ≠ .text) : n.endsWalk = false := by
  simp [Node.endsWalk, hswap, hasset, huse, htext]

/-- What one child adds to the styles by slug. -/
def collectChild (d : Document) (fuel : Nat) (styles : OrderedMap StyleMap) (child : Node) :
    OrderedMap StyleMap :=
  if isSkipped child then styles
  else
    let slug := Text.camelIdentifier child.name
    let styles := if slug.isEmpty then styles else styles.insertIfNew slug (Style.resolve d child)
    if child.kind = .text then styles else d.collectStyles fuel child.id styles

/-- The style walk goes over the rendered children. -/
theorem collectStyles_succ (d : Document) (fuel : Nat) (id : NodeId) (styles : OrderedMap StyleMap) :
    d.collectStyles (fuel + 1) id styles = (d.renderedChildren id).foldl (d.collectChild fuel) styles := by
  rw [collectStyles, renderedChildren, List.foldl_filter]
  congr 1
  funext styles child
  by_cases hr : child.isRendered = true
  · rw [if_pos hr]
    rfl
  · rw [if_neg hr, if_pos (by simp [isSkipped, hr])]

namespace Simulates

variable {d₁ d₂ : Document} {R : Nat → Node → Nat → Node → Prop} (sim : Simulates d₁ d₂ R)
include sim

/-- Related nodes have the same entry, and capture the same on the way. -/
theorem visit_eq {f g : Nat} {n m : Node} (h : R f n g m) (s : Capture) :
    d₁.visit f n s = d₂.visit g m s := by
  induction f generalizing n g m s with
  | zero =>
    obtain rfl : g = 0 := (sim.depth h).1 rfl
    rw [← visit_bare d₁, sim.bare h, visit_bare]
    rfl
  | succ f ih =>
    obtain ⟨g, rfl⟩ : ∃ g', g = g' + 1 := by
      have := sim.depth h
      exact ⟨g - 1, by omega⟩
    have id_eq : m.id = n.id := (Node.id_eq_of_bare (sim.bare h)).symm
    have found := sim.found h
    have below := sim.below h
    rw [id_eq] at found below
    rw [← visit_bare d₂, ← sim.bare h, visit_bare d₂]
    have asset := exportAsset_congr found
    have looks : Style.resolve d₁ n = Style.resolve d₂ n := by
      rw [sim.looks h, ← resolve_bare, ← sim.bare h, resolve_bare]
    have uses := instanceUse_congr (sim.references h)
    simp only [visit, modelNode, Option.isSome_map, Capture.addAsset, asset, uses, looks]
    split
    · rfl
    · next hswap =>
      split
      · rfl
      · next hasset =>
        split
        · rfl
        · next huse =>
          split
          · rfl
          · next htext =>
            have ends := endsWalk_eq_false (by simpa using hswap) (by simpa using hasset) huse htext
            simp only [visitEach_congr ((below ends).imp fun _ _ hr s => ih hr s)]

omit sim in
private theorem foldl_congr {α β : Type} {P : β → β → Prop} {f g : α → β → α}
    (h : ∀ a b c, P b c → f a b = g a c) {l₁ l₂ : List β} (hl : List.Forall₂ P l₁ l₂) (a : α) :
    l₁.foldl f a = l₂.foldl g a := by
  induction hl generalizing a with
  | nil => rfl
  | cons first _ ih => rw [List.foldl_cons, List.foldl_cons, h _ _ _ first, ih]

private theorem collectEach_eq {f g : Nat} {a b : NodeId}
    (h : List.Forall₂ (fun n m => R f n g m) (d₁.renderedChildren a) (d₂.renderedChildren b))
    (below : ∀ {n m}, R f n g m → n.endsWalk = false → ∀ styles,
      d₁.collectStyles f n.id styles = d₂.collectStyles g m.id styles)
    (styles : OrderedMap StyleMap) :
    d₁.collectStyles (f + 1) a styles = d₂.collectStyles (g + 1) b styles := by
  rw [collectStyles_succ, collectStyles_succ]
  refine foldl_congr ?_ h styles
  intro styles n m hr
  have skipped : isSkipped n = isSkipped m := by
    show isSkipped n.bare = isSkipped m.bare
    rw [sim.bare hr]
  have name : n.name = m.name := Node.name_eq_of_bare (sim.bare hr)
  have kind : n.kind = m.kind := Node.kind_eq_of_bare (sim.bare hr)
  have looks := sim.looks hr
  simp only [collectChild]
  rw [← skipped, ← name, ← kind, ← looks]
  split
  · rfl
  · next hskip =>
    split
    · rfl
    · next htext =>
      apply below hr
      simp only [isSkipped, Bool.or_eq_true, not_or, Bool.not_eq_true] at hskip
      simp [Node.endsWalk, hskip.1.1.2, hskip.1.2, hskip.2, htext]

private theorem collectBelow_eq {f g : Nat} {n m : Node} (h : R f n g m)
    (ends : n.endsWalk = false) (styles : OrderedMap StyleMap) :
    d₁.collectStyles f n.id styles = d₂.collectStyles g m.id styles := by
  induction f generalizing g n m styles with
  | zero =>
    obtain rfl : g = 0 := (sim.depth h).1 rfl
    rfl
  | succ f ih =>
    obtain ⟨g, rfl⟩ : ∃ g', g = g' + 1 := by
      have := sim.depth h
      exact ⟨g - 1, by omega⟩
    exact sim.collectEach_eq (sim.below h ends) (fun hr he styles => ih hr he styles) styles

/-- Nodes with related rendered children have the same styles below them. -/
theorem collectStyles_eq {f g : Nat} {a b : NodeId}
    (h : List.Forall₂ (fun n m => R f n g m) (d₁.renderedChildren a) (d₂.renderedChildren b))
    (styles : OrderedMap StyleMap) :
    d₁.collectStyles (f + 1) a styles = d₂.collectStyles (g + 1) b styles :=
  sim.collectEach_eq h (fun hr he styles => sim.collectBelow_eq hr he styles) styles

omit sim in
/-- Two nodes that are alike and look alike, with related nodes rendered below them. -/
structure Roots (d₁ d₂ : Document) (R : Nat → Node → Nat → Node → Prop) (f g : Nat) (n m : Node) :
    Prop where
  bare : n.bare = m.bare
  looks : Style.resolve d₁ n = Style.resolve d₂ m
  below : List.Forall₂ (fun a b => R f a g b) (d₁.renderedChildren n.id) (d₂.renderedChildren m.id)

private theorem addMember_eq {n m : Node}
    (h : Roots d₁ d₂ R d₁.placements.length d₂.placements.length n m)
    (base : OrderedMap StyleMap) (variants : OrderedMap Modifiers) :
    d₁.addMember base variants n = d₂.addMember base variants m := by
  have key : n.variantKey = m.variantKey :=
    Node.eq_of_bare (fun _ => rfl) h.bare
  have styles : d₁.subtreeStyles n = d₂.subtreeStyles m := by
    rw [subtreeStyles, h.looks]
    exact sim.collectStyles_eq h.below _
  rw [addMember, addMember, key, styles]

/-- Documents have the same model for a descriptor whose root and whose other members are roots of
related walks. -/
theorem extract_eq {descriptor : Descriptor} {root₁ root₂ : Node}
    (found₁ : d₁.node? descriptor.rootNode = some root₁)
    (found₂ : d₂.node? descriptor.rootNode = some root₂)
    (shown : Roots d₁ d₂ R d₁.walkBound d₂.walkBound root₁ root₂)
    (members : descriptor.isVariant = true →
      List.Forall₂ (Roots d₁ d₂ R d₁.placements.length d₂.placements.length)
        (d₁.otherMembers descriptor) (d₂.otherMembers descriptor)) :
    d₁.extract descriptor = d₂.extract descriptor := by
  have id_eq : root₁.id = root₂.id := Node.id_eq_of_bare shown.bare
  have name : root₁.name = root₂.name := Node.name_eq_of_bare shown.bare
  have kind : root₁.kind = root₂.kind := Node.kind_eq_of_bare shown.bare
  have links (s : Capture) : s.addLinks root₁ = s.addLinks root₂ := by
    show s.addLinks root₁.bare = s.addLinks root₂.bare
    rw [shown.bare]
  have start : d₁.startCapture root₁ = d₂.startCapture root₂ := by
    rw [startCapture, startCapture, shown.looks, links]
  have walk := visitEach_congr (shown.below.imp fun _ _ hr s => sim.visit_eq hr s)
    (d₁.startCapture root₁)
  rw [start, id_eq] at walk
  have variants (base : OrderedMap StyleMap) (h : descriptor.isVariant = true) :
      d₁.variantStyles descriptor base = d₂.variantStyles descriptor base := by
    rw [variantStyles, variantStyles]
    refine foldl_congr ?_ (members h) OrderedMap.empty
    intro variants n m hr
    exact sim.addMember_eq hr base variants
  simp only [extract, found₁, found₂, start, walk, id_eq, name, kind]
  cases hv : descriptor.isVariant with
  | true => simp only [if_true, variants _ hv]
  | false => simp only [Bool.false_eq_true, if_false]

end Simulates

/-! ## Compilation -/

/-- The theme depends on collections, variables and paint styles. -/
theorem themeModule_congr {d₁ d₂ : Document} (hc : d₁.collections = d₂.collections)
    (hv : d₁.localVariables = d₂.localVariables) (hp : d₁.paintStyles = d₂.paintStyles) (s : ThemeSettings) :
    ThemeModule.ofDocument s d₁ = ThemeModule.ofDocument s d₂ := by
  cases d₁
  cases d₂
  cases hc
  cases hv
  cases hp
  rfl

/-- A bundle depends on the descriptor, its model, the theme and the icons. -/
theorem compile_congr {d₁ d₂ : Document} {id : NodeId} {s : Settings}
    (hc : d₁.collections = d₂.collections) (hv : d₁.localVariables = d₂.localVariables)
    (hp : d₁.paintStyles = d₂.paintStyles) (icons : d₁.iconSources = d₂.iconSources)
    (described : d₁.describe id (d₁.selectedChild? id) = d₂.describe id (d₂.selectedChild? id))
    (extracted : ∀ descriptor, d₁.describe id (d₁.selectedChild? id) = .ok descriptor →
      d₁.extract descriptor = d₂.extract descriptor) :
    d₁.compile s id = d₂.compile s id := by
  have bundle : d₁.bundleOf s = d₂.bundleOf s := by
    funext descriptor m written
    simp only [bundleOf, icons, themeModule_congr hc hv hp]
  unfold compile
  rw [← described]
  cases hd : d₁.describe id (d₁.selectedChild? id) with
  | error e => rfl
  | ok descriptor => simp only [extracted descriptor hd, bundle]

end Document
end Handoff
