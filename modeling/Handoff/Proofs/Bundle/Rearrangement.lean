import Handoff.Proofs.Bundle.Canonical
import Handoff.Proofs.Ordered.Map
import Handoff.Proofs.Scene.PropertyOrder

/-!
# Compilation cannot see the order of properties

Wherever properties are written they are sorted first, and the sorted list depends on the properties alone.
So a document and the same document with all properties brought into display order compile alike: to the
same error, or to the same bundle. Hence documents that differ only in the order in which they store
property definitions and the properties of instances compile alike.
-/

namespace Handoff

/-! ## Properties in display order -/

namespace PropertyOrder

variable {β : Type} {kind : β → PropertyType}

/-- A map of properties in display order. -/
def arranged (kind : β → PropertyType) (m : OrderedMap β) : OrderedMap β where
  entries := sortBy display (fun e => (e.1, kind e.2)) m.entries
  nodup := ((sortBy_perm display _ m.entries).map Prod.fst).nodup_iff.2 m.nodup

private theorem eq_of_mem_entries {m : OrderedMap β} {a b : String × β} (ha : a ∈ m.entries)
    (hb : b ∈ m.entries) (key : a.1 = b.1) : a = b := by
  have found : m.get? a.1 = some a.2 := OrderedMap.get?_of_mem ha
  rw [key, show m.get? b.1 = some b.2 from OrderedMap.get?_of_mem hb] at found
  exact Prod.ext key (Option.some.inj found).symm

/-- Entries of a map are sorted to the same list however they are listed, by any lawful order that tells
keys apart. -/
theorem sortBy_eq_of_perm_entries {order : String × PropertyType → String × PropertyType → Ordering}
    [Std.TransCmp order] (apart : ∀ a b, order a b = .eq → a.1 = b.1) {m : OrderedMap β}
    {l₁ l₂ : List (String × β)} (perm : l₁.Perm l₂) (listed : l₁ ⊆ m.entries) :
    sortBy order (fun e => (e.1, kind e.2)) l₁ = sortBy order (fun e => (e.1, kind e.2)) l₂ := by
  apply sortBy_eq_of_perm perm
  intro a ha b hb same
  exact eq_of_mem_entries (listed ha) (listed hb) (apart _ _ same)

private theorem display_apart (a b : String × PropertyType) (h : display a b = .eq) : a.1 = b.1 :=
  congrArg Prod.fst (display_eq_eq.1 h)

private theorem declaration_apart (a b : String × PropertyType) (h : declaration a b = .eq) :
    a.1 = b.1 :=
  (declaration_eq_eq.1 h).1

/-- Maps of the same properties are the same in display order. -/
theorem arranged_eq_of_perm {m₁ m₂ : OrderedMap β} (perm : m₁.entries.Perm m₂.entries) :
    arranged kind m₁ = arranged kind m₂ :=
  OrderedMap.ext (sortBy_eq_of_perm_entries display_apart perm (List.Subset.refl _))

/-- In display order a map has the properties it has. -/
theorem arranged_perm (m : OrderedMap β) : (arranged kind m).entries.Perm m.entries :=
  sortBy_perm _ _ _

/-- Properties that are in display order already stay as they are. -/
theorem sortBy_display_arranged (m : OrderedMap β) :
    sortBy display (fun e => (e.1, kind e.2)) (arranged kind m).entries =
      sortBy display (fun e => (e.1, kind e.2)) m.entries :=
  sortBy_eq_of_perm_entries display_apart (arranged_perm m) (List.Subset.refl _)

/-- The declared properties do not depend on the order in which they are stored. -/
theorem declared_arranged (m : OrderedMap PropertyDefinition) :
    declared (arranged (·.kind) m) = declared m :=
  sortBy_eq_of_perm_entries declaration_apart (arranged_perm m) (List.Subset.refl _)

/-- Changing a property that keeps its type and bringing all into display order commute. -/
theorem arranged_modify {f : β → β} (keeps : ∀ b, kind (f b) = kind b) (m : OrderedMap β)
    (key : String) : arranged kind (m.modify key f) = (arranged kind m).modify key f := by
  apply OrderedMap.ext
  refine sortBy_map (fun e => ?_) m.entries
  split
  · rw [keeps]
  · rfl

end PropertyOrder

/-- A node with its properties in display order. -/
def Node.arranged (n : Node) : Node :=
  { n with
    propertyDefinitions := PropertyOrder.arranged (·.kind) n.propertyDefinitions
    componentProperties := PropertyOrder.arranged (·.kind) n.componentProperties }

/-- Bringing properties into display order keeps everything else. -/
theorem Node.frames_arranged : Frames arranged :=
  ⟨fun _ => rfl, fun _ => rfl, fun _ => rfl, fun _ => rfl, fun _ => rfl⟩

/-- A descriptor with its properties in display order. -/
def Descriptor.arranged (a : Descriptor) : Descriptor :=
  { a with properties := PropertyOrder.arranged (·.kind) a.properties }

/-- The default values of a selected member do not depend on the order of properties. -/
theorem overrideDefaults_arranged (m : OrderedMap PropertyDefinition)
    (values : List (String × String)) :
    overrideDefaults (PropertyOrder.arranged (·.kind) m) values =
      PropertyOrder.arranged (·.kind) (overrideDefaults m values) := by
  induction values generalizing m with
  | nil => rfl
  | cons pair rest ih =>
    have keeps (p : PropertyDefinition) :
        (if p.kind = .variant then { p with default := .text pair.2 } else p).kind = p.kind := by
      split <;> rfl
    rw [overrideDefaults, List.foldl_cons, ← PropertyOrder.arranged_modify keeps]
    exact ih _

namespace Descriptor

variable (a : Descriptor)

/-- A component shows the same properties, in the same order. -/
theorem shownProperties_arranged : a.arranged.shownProperties = a.shownProperties :=
  PropertyOrder.sortBy_eq_of_perm_entries
    (fun _ _ same => congrArg Prod.fst (PropertyOrder.display_eq_eq.1 same))
    ((PropertyOrder.arranged_perm a.properties).filter _)
    fun _ h => List.mem_of_mem_filter h

/-- A component has the same usage line. -/
theorem usage_arranged (s : Settings) : a.arranged.usage s = a.usage s := by
  rw [usage, shownProperties_arranged]
  rfl

/-- A component has the same bundle but for the usage line. -/
theorem sameBundle_arranged : a.arranged.SameBundle a where
  id := rfl
  name := rfl
  isVariant := rfl
  rootNode := rfl
  interface := congrArg (List.map InterfaceMember.ofDefinition)
    (PropertyOrder.declared_arranged a.properties)
  documentation := rfl
  page := rfl
  path := rfl

end Descriptor

namespace Document

/-- A document with the properties of every node in display order. -/
def arranged (d : Document) : Document := d.mapNodes Node.arranged

variable {d : Document}

/-! ## Walks -/

private theorem renderedChildren_arranged (id : NodeId) :
    d.arranged.renderedChildren id = (d.renderedChildren id).map Node.arranged := by
  rw [renderedChildren, arranged, children_mapNodes Node.frames_arranged, List.filter_map]
  rfl

private theorem exportAsset_arranged (id : NodeId) : d.arranged.exportAsset id = d.exportAsset id := by
  rw [exportAsset, arranged, node?_mapNodes, exportAsset]
  cases d.node? id <;> rfl

private theorem sameReference_arranged (id : NodeId) : SameReference d.arranged d id := by
  constructor
  · rw [arranged, node?_mapNodes, Option.map_map]
    rfl
  · rw [arranged, targetName?_mapNodes Node.frames_arranged]

private theorem instanceUse_arranged (n : Node) (s : Capture) :
    d.arranged.instanceUse s n.arranged = d.instanceUse s n := by
  rw [instanceUse_congr fun r _ => sameReference_arranged r]
  have sorted :
      PropertyOrder.sortBy PropertyOrder.display (fun e => (e.1, e.2.kind))
          (PropertyOrder.arranged (·.kind) n.componentProperties).entries =
        PropertyOrder.sortBy PropertyOrder.display (fun e => (e.1, e.2.kind))
          n.componentProperties.entries :=
    PropertyOrder.sortBy_display_arranged n.componentProperties
  simp only [instanceUse, Node.arranged, mainUse, sorted]

private theorem visitEach_map {v₁ v₂ : Node → Capture → Capture × Except CompileError Entry}
    {f : Node → Node} (same : ∀ n s, v₁ (f n) s = v₂ n s) (l : List Node) (s : Capture) :
    visitEach v₁ (l.map f) s = visitEach v₂ l s := by
  induction l generalizing s with
  | nil => rfl
  | cons n rest ih => simp only [List.map_cons, visitEach, same, ih]

private theorem visit_arranged (fuel : Nat) (n : Node) (s : Capture) :
    d.arranged.visit fuel n.arranged s = d.visit fuel n s := by
  induction fuel generalizing n s with
  | zero => rfl
  | succ fuel ih =>
    -- Of the two maps only the properties of an instance are read, and those sorted.
    have node : modelNode n.arranged = modelNode n := rfl
    have links : s.addLinks n.arranged = s.addLinks n := rfl
    have kind : n.arranged.kind = n.kind := rfl
    have text : n.arranged.text = n.text := rfl
    have looks : Style.resolve d.arranged n.arranged = Style.resolve d n := rfl
    have asset (s : Capture) : s.addAsset d.arranged n.arranged = s.addAsset d n := by
      simp only [Capture.addAsset, exportAsset_arranged]
      rfl
    have below (s : Capture) :
        visitEach (d.arranged.visit fuel) (d.arranged.renderedChildren n.arranged.id) s =
          visitEach (d.visit fuel) (d.renderedChildren n.id) s := by
      rw [renderedChildren_arranged]
      exact visitEach_map ih _ s
    simp only [visit, node, links, kind, text, looks, asset, instanceUse_arranged, below]

private theorem collectStyles_arranged (fuel : Nat) (id : NodeId) (styles : OrderedMap StyleMap) :
    d.arranged.collectStyles fuel id styles = d.collectStyles fuel id styles := by
  induction fuel generalizing id styles with
  | zero => rfl
  | succ fuel ih =>
    have child (styles : OrderedMap StyleMap) (n : Node) :
        d.arranged.collectChild fuel styles n.arranged = d.collectChild fuel styles n := by
      simp only [collectChild, ih]
      rfl
    rw [collectStyles_succ, collectStyles_succ, renderedChildren_arranged, List.foldl_map]
    simp only [child]

private theorem variantStyles_arranged (descriptor : Descriptor) (base : OrderedMap StyleMap) :
    d.arranged.variantStyles descriptor base = d.variantStyles descriptor base := by
  have members : d.arranged.otherMembers descriptor =
      (d.otherMembers descriptor).map Node.arranged := by
    rw [otherMembers, arranged, children_mapNodes Node.frames_arranged, List.filter_map]
    rfl
  have bound : d.arranged.walkBound = d.walkBound := walkBound_mapNodes
  have styles (n : Node) : d.arranged.subtreeStyles n.arranged = d.subtreeStyles n := by
    rw [subtreeStyles, collectStyles_arranged, bound]
    rfl
  have member (variants : OrderedMap Modifiers) (n : Node) :
      d.arranged.addMember base variants n.arranged = d.addMember base variants n := by
    rw [addMember, styles]
    rfl
  rw [variantStyles, members, List.foldl_map]
  simp only [member]
  rfl

/-- A described component has the same model. -/
theorem extract_arranged (descriptor : Descriptor) :
    d.arranged.extract descriptor = d.extract descriptor := by
  have bound : d.arranged.walkBound = d.walkBound := walkBound_mapNodes
  rw [extract, arranged, node?_mapNodes, ← arranged, extract]
  cases d.node? descriptor.rootNode with
  | none => rfl
  | some root =>
    have start : d.arranged.startCapture root.arranged = d.startCapture root := rfl
    have walk : visitEach (d.arranged.visit d.arranged.walkBound)
        (d.arranged.renderedChildren root.arranged.id) (d.startCapture root) =
          visitEach (d.visit d.walkBound) (d.renderedChildren root.id) (d.startCapture root) := by
      rw [bound, renderedChildren_arranged]
      exact visitEach_map (visit_arranged d.walkBound) _ _
    simp only [Option.map_some, start, walk, variantStyles_arranged]
    rfl

/-! ## Descriptions -/

/-- The description of a component is the same with its properties in display order. -/
theorem describe_arranged (id : NodeId) (selected : Option NodeId) :
    d.arranged.describe id selected = (d.describe id selected).map Descriptor.arranged :=
  describe_mapNodes Node.frames_arranged (fun _ => rfl) (fun _ => rfl) (fun _ => rfl)
    (fun n values => overrideDefaults_arranged n.propertyDefinitions values) selected

/-! ## Bundles -/

/-- A node compiles alike while the same member is selected. -/
theorem compileShowing_arranged (s : Settings) (id : NodeId) (selected : Option NodeId) :
    d.arranged.compileShowing s id selected = d.compileShowing s id selected := by
  have bundles (descriptor : Descriptor) (m : Model) :
      d.arranged.bundleOf s descriptor m = d.bundleOf s descriptor m := by
    funext written
    have icons : d.arranged.iconSources = d.iconSources := iconSources_mapNodes Node.frames_arranged
    simp only [bundleOf, icons]
    rfl
  have described (descriptor : Descriptor) :
      d.arranged.compileDescribed s descriptor = d.compileDescribed s descriptor := by
    simp only [compileDescribed, extract_arranged, bundles]
  unfold compileShowing
  rw [describe_arranged]
  cases d.describe id selected with
  | error e => rfl
  | ok descriptor =>
    show d.arranged.compileDescribed s descriptor.arranged = _
    rw [described]
    exact compileDescribed_congr descriptor.sameBundle_arranged s (descriptor.usage_arranged s)

end Document

/-! ## Documents that store properties in different orders -/

/-- Whether a node stores the properties of another one in some other order, and is the same otherwise. -/
structure Node.Rearranges (n m : Node) : Prop where
  definitions : n.propertyDefinitions.entries.Perm m.propertyDefinitions.entries
  properties : n.componentProperties.entries.Perm m.componentProperties.entries
  rest : m =
    { n with
      propertyDefinitions := m.propertyDefinitions
      componentProperties := m.componentProperties }

/-- Nodes with the same properties are the same once these are in display order. -/
theorem Node.Rearranges.arranged_eq {n m : Node} (h : n.Rearranges m) : n.arranged = m.arranged := by
  rw [Node.arranged, PropertyOrder.arranged_eq_of_perm h.definitions,
    PropertyOrder.arranged_eq_of_perm h.properties, Node.arranged]
  rw [h.rest]

/-- Whether a document stores the properties of the nodes of another one in some other order, and is the
same otherwise. -/
structure Document.Rearranges (d e : Document) : Prop where
  nodes : List.Forall₂
    (fun p q : Placement => p.node.Rearranges q.node ∧ q = { p with node := q.node })
    d.placements e.placements
  rest : e = { d with placements := e.placements }

namespace Document

variable {d e : Document}

/-- Documents whose nodes have the same properties are the same once these are in display order. -/
theorem Rearranges.arranged_eq (h : d.Rearranges e) : d.arranged = e.arranged := by
  have placed : d.placements.map (fun p => { p with node := p.node.arranged }) =
      e.placements.map fun p => { p with node := p.node.arranged } := by
    rw [← List.forall₂_eq_eq_eq, List.forall₂_map_left_iff, List.forall₂_map_right_iff]
    refine h.nodes.imp fun p q ⟨nodes, rest⟩ => ?_
    rw [nodes.arranged_eq, rest]
  rw [arranged, mapNodes, placed, arranged, mapNodes, h.rest]

/-- Both orders of properties are lawful comparisons: the declaration order tells keys apart, and booleans
from the rest, and the display order tells keys and types apart. So documents that differ only in the order
in which they store properties compile alike, to the same code and the same usage line among the rest,
whatever is selected. -/
theorem compile_ignores_property_order :
    (Std.TransCmp PropertyOrder.declaration ∧ ∀ a b, PropertyOrder.declaration a b = .eq ↔
      a.1 = b.1 ∧ (a.2 = .boolean ↔ b.2 = .boolean)) ∧
    (Std.TransCmp PropertyOrder.display ∧ ∀ a b, PropertyOrder.display a b = .eq ↔ a = b) ∧
    ∀ d e : Document, d.Rearranges e → ∀ (s : Settings) (id : NodeId),
      (∀ selected, d.compileShowing s id selected = e.compileShowing s id selected) ∧
        d.compile s id = e.compile s id := by
  refine ⟨⟨inferInstance, fun _ _ => PropertyOrder.declaration_eq_eq⟩,
    ⟨inferInstance, fun _ _ => PropertyOrder.display_eq_eq⟩, fun d e h s id => ?_⟩
  have showing (selected : Option NodeId) :
      d.compileShowing s id selected = e.compileShowing s id selected := by
    rw [← compileShowing_arranged, h.arranged_eq, compileShowing_arranged]
  have selected : d.selectedChild? id = e.selectedChild? id := by
    have unmoved (d : Document) : d.arranged.selectedChild? id = d.selectedChild? id :=
      selectedChild?_mapNodes Node.frames_arranged
    rw [← unmoved, h.arranged_eq, unmoved]
  refine ⟨showing, ?_⟩
  rw [compile_eq_compileShowing, compile_eq_compileShowing, selected, showing]

/-- A list entry that declares some properties and holds a button with some properties. -/
def listEntry (definitions : List (String × PropertyDefinition))
    (properties : List (String × InstanceProperty)) : Document :=
  filed
    [{ id := "e", name := "List entry", kind := .component, children := ["i"]
       propertyDefinitions := .ofList definitions },
      { id := "i", name := "Action", kind := .componentInstance, mainComponent := some "b"
        componentProperties := .ofList properties },
      { id := "b", name := "Button", kind := .component }]

/-- The same list entry with its properties in two orders. -/
theorem compile_listEntry :
    let title : String × PropertyDefinition := ("Title#1:0", ⟨.text, .text "", []⟩)
    let shown : String × PropertyDefinition := ("Shown#1:1", ⟨.boolean, .bool true, []⟩)
    let label : String × InstanceProperty := ("Label", { kind := .text, value := .text "Buy" })
    let muted : String × InstanceProperty := ("Muted", { kind := .boolean, value := .bool false })
    let d := listEntry [title, shown] [label, muted]
    let e := listEntry [shown, title] [muted, label]
    d ≠ e ∧ d.Rearranges e ∧ (d.compile {} "e").2.toOption.isSome = true ∧
      d.compile {} "e" = e.compile {} "e" := by
  intro title shown label muted d e
  have rearranges : d.Rearranges e := by
    refine ⟨.cons ⟨⟨?_, ?_, rfl⟩, rfl⟩ (.cons ⟨⟨?_, ?_, rfl⟩, rfl⟩ (.cons ⟨⟨?_, ?_, rfl⟩, rfl⟩ .nil)),
      rfl⟩
    all_goals decide
  exact ⟨by decide, rearranges, by decide +kernel,
    (compile_ignores_property_order.2.2 d e rearranges {} "e").2⟩

end Document
end Handoff
