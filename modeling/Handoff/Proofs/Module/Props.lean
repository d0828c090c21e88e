import Handoff.Proofs.Bundle.Code
import Handoff.Proofs.Component.Modifiers
import Handoff.Proofs.Component.Reach
import Handoff.Proofs.Module.Classes
import Handoff.Proofs.Module.Rendering

/-!
# Props in use are declared

A module refers to properties of its component wherever an element is shown or hidden by one, is held by
one, shows the text of one or hands one on to an instance, and in the conditions of classes. Elements name
what the walk meets, and conditions what the keys of members assign, both by the identifiers under which
the interface declares them. So where all these keys are defined, every property that a line of the module uses
has its line in the interface, and the function takes it.
-/

namespace Handoff

/-! ## Properties among the names -/

section

variable {p : String}

private theorem prop_mem_attribute {value : AttributeValue} : .prop p ∈ value.uses ↔ value = .prop p := by
  cases value <;> simp [AttributeValue.uses, eq_comm]

private theorem prop_mem_content {content : TextContent} : .prop p ∈ content.uses ↔ content = .prop p := by
  rcases content with name | ⟨characters, _ | _⟩ <;> simp [TextContent.uses, eq_comm]

namespace Markup

theorem prop_mem_use {component : String} {attributes : List (String × AttributeValue)} :
    .prop p ∈ (use component attributes).uses ↔ ∃ name, (name, AttributeValue.prop p) ∈ attributes := by
  simp [uses, List.mem_flatMap, prop_mem_attribute]

theorem prop_mem_text {tag : Primitive} {own : Option StyleRef} {content : TextContent} :
    .prop p ∈ (text tag own content).uses ↔ content = .prop p := by
  simp [uses, prop_mem_content]

theorem prop_notMem_empty (tag : Primitive) (own : Option StyleRef) : .prop p ∉ (empty tag own).uses := by
  simp [uses]

theorem prop_mem_container {tag : Primitive} {own : Option StyleRef} {elements : List (Option String × Markup)} :
    .prop p ∈ (container tag own elements).uses ↔ .prop p ∈ usesAll elements := by
  simp [uses]

/-- A property that elements use shows or hides one of them, or stands in one. -/
theorem prop_mem_usesAll {elements : List (Option String × Markup)} :
    .prop p ∈ usesAll elements ↔ ∃ e ∈ elements, e.1 = some p ∨ .prop p ∈ e.2.uses := by
  induction elements with
  | nil => simp [usesAll]
  | cons e rest ih => simp [usesAll, ih, or_assoc]

end Markup

/-- The properties in a class list are those that the conditions of its classes assign. -/
theorem ClassList.prop_mem {c : ClassList} :
    .prop p ∈ c.uses ↔ ∃ k ∈ c.conditional, ∃ a ∈ k.assignments, Text.propertyIdentifier a.1 = p := by
  simp [uses, List.mem_flatMap]

/-- The properties in a module are those in its class lists and those in its elements. -/
theorem ComponentModule.prop_mem {m : ComponentModule} :
    .prop p ∈ m.uses ↔ (∃ c ∈ m.classes.getD [], .prop p ∈ c.uses) ∨ .prop p ∈ Markup.usesAll m.body := by
  simp [uses, List.mem_flatMap]

end

/-! ## What elements name -/

/-- Whether a node of a model names a property: as the one it is swapped by, as the one it shows, or in an
attribute. -/
inductive ModelNode.Names (n : ModelNode) (p : String) : Prop where
  | swap : n.swapProp = some p → Names n p
  | text : n.textProp = some p → Names n p
  | attribute {u : InstanceUse} {name : String} : n.use = some u →
    (name, AttributeValue.prop p) ∈ u.attributes → Names n p

namespace Model

variable {m : Model} {translated : Bool} {p : String}

private theorem names_of_leafMarkup? {n : ModelNode} {isAsset : Bool} {element : Markup}
    (h : m.leafMarkup? translated n isAsset = some element) (hp : .prop p ∈ element.uses) : n.Names p := by
  unfold leafMarkup? at h
  split at h
  · next swap =>
    cases h
    cases List.mem_singleton.1 hp
    exact .swap swap
  · split at h
    · cases h
      unfold assetMarkup at hp
      split at hp <;> simp [Markup.uses] at hp
    · split at h
      · next u use =>
        cases h
        unfold InstanceUse.markup at hp
        split at hp
        · simp [Markup.uses] at hp
        · obtain ⟨name, listed⟩ := Markup.prop_mem_use.1 hp
          exact .attribute use listed
      · split at h
        · cases h
          have shown := Markup.prop_mem_text.1 hp
          unfold ModelNode.content at shown
          split at shown
          · next text =>
            cases shown
            exact .text text
          · cases shown
        · cases h

/-- The element of an entry refers to what its node names, and to what the elements below refer to. -/
theorem names_of_markup {entry : Entry} (hp : .prop p ∈ (m.markup translated entry).uses) :
    entry.node.Names p ∨ ∃ e ∈ entry.children.getD [],
      e.node.visibilityProp = some p ∨ .prop p ∈ (m.markup translated e).uses := by
  obtain ⟨n, children, isAsset⟩ := entry
  cases hl : m.leafMarkup? translated n isAsset with
  | some element =>
    have leaf : m.markup translated (.mk n children isAsset) = element := by
      cases children <;> simp [markup, hl]
    rw [leaf] at hp
    exact .inl (names_of_leafMarkup? hl hp)
  | none =>
    cases children with
    | none =>
      rw [markup, hl] at hp
      exact absurd hp (Markup.prop_notMem_empty _ _)
    | some entries =>
      rw [markup, hl, Option.getD_none, Markup.prop_mem_container, markupAll_eq_map, Markup.prop_mem_usesAll] at hp
      obtain ⟨_, listed, named⟩ := hp
      obtain ⟨e, he, rfl⟩ := List.mem_map.1 listed
      exact .inr ⟨e, he, named⟩

end Model

/-! ## What the walk meets -/

instance : DecidablePred Document.RendersInstance := fun _ => inferInstanceAs (Decidable (_ ∧ _))

/-- The property keys that a walk meets at a node: those that the node refers to, and those that an instance
binds its properties to. -/
def Node.propertyKeys (n : Node) : List String :=
  n.propertyReferences.visible.toList ++ n.propertyReferences.characters.toList
    ++ n.propertyReferences.mainComponent.toList
    ++ if Document.RendersInstance n then n.componentProperties.values.filterMap (·.boundTo) else []

/-- What is met at a node is what it refers to, and what it binds properties to if it renders an instance. -/
theorem Node.mem_propertyKeys {n : Node} {key : String} :
    key ∈ n.propertyKeys ↔ n.propertyReferences.visible = some key ∨
      n.propertyReferences.characters = some key ∨ n.propertyReferences.mainComponent = some key ∨
      (Document.RendersInstance n ∧ key ∈ n.componentProperties.values.filterMap (·.boundTo)) := by
  unfold propertyKeys
  simp only [List.mem_append, Option.mem_toList, or_assoc]
  split <;> simp_all only [true_and, false_and, List.not_mem_nil]

namespace Document

variable {d : Document} {s s' : Capture} {n : Node} {root : NodeId} {p : String}

/-- Whether the walk below a root meets a property key. -/
def MeetsKey (d : Document) (root : NodeId) (key : String) : Prop :=
  ∃ n, d.Reached root n ∧ key ∈ n.propertyKeys

private theorem boundTo_of_attributeOf {e : String × InstanceProperty} {name : String}
    (h : (d.attributeOf s e).2 = some (name, .prop p)) :
    ∃ bound, e.2.boundTo = some bound ∧ Text.propertyIdentifier bound = p := by
  unfold attributeOf at h
  cases hb : e.2.boundTo with
  | some bound =>
    simp only [hb, Option.some.injEq, Prod.mk.injEq, AttributeValue.prop.injEq] at h
    exact ⟨bound, rfl, h.2⟩
  | none =>
    simp only [hb] at h
    split at h
    · simp at h
    · split at h <;> simp at h
    · simp at h

private theorem boundTo_of_attributes {l : List (String × InstanceProperty)} {name : String}
    (h : (name, AttributeValue.prop p) ∈ (d.attributes s l).2) :
    ∃ e ∈ l, ∃ bound, e.2.boundTo = some bound ∧ Text.propertyIdentifier bound = p := by
  induction l generalizing s with
  | nil => cases h
  | cons e rest ih =>
    rcases List.mem_append.1 h with h | h
    · exact ⟨e, List.mem_cons_self, boundTo_of_attributeOf (Option.mem_toList.1 h)⟩
    · obtain ⟨e, he, bound⟩ := ih h
      exact ⟨e, List.mem_cons_of_mem _ he, bound⟩

private theorem boundTo_of_instanceUse {u : InstanceUse} {name : String}
    (h : d.instanceUse s n = (s', .ok u)) (handed : (name, AttributeValue.prop p) ∈ u.attributes) :
    ∃ bound ∈ n.componentProperties.values.filterMap (·.boundTo), Text.propertyIdentifier bound = p := by
  unfold instanceUse at h
  split at h
  · cases h
  · split at h
    · cases h
    · split at h
      · cases h
      · cases h
        obtain ⟨e, he, bound, hb, named⟩ := boundTo_of_attributes handed
        have listed := (PropertyOrder.sortBy_perm _ _ _).mem_iff.1 he
        exact ⟨bound, List.mem_filterMap.2 ⟨e.2, List.mem_map_of_mem listed, hb⟩, named⟩

/-- A visit that succeeds writes the node with what it shows, and what an instance renders only for one; the
entries below are those of a walk that goes on. -/
private theorem visit_entry {fuel : Nat} {entry : Entry} (h : d.visit fuel n s = (s', .ok entry)) :
    (∃ characters use, entry.node = { modelNode n with characters, use } ∧
      ∀ u, use = some u → RendersInstance n ∧ ∃ s₁ s₂, d.instanceUse s₁ n = (s₂, .ok u)) ∧
    (entry.children = none ∨ ∃ f below s₁ s₂, fuel = f + 1 ∧ n.endsWalk = false ∧
      entry.children = someEntries below ∧
      visitEach (d.visit f) (d.renderedChildren n.id) s₁ = (s₂, .ok below)) := by
  have plain : ∀ u, (none : Option InstanceUse) = some u →
      RendersInstance n ∧ ∃ s₁ s₂, d.instanceUse s₁ n = (s₂, .ok u) := by
    rintro u ⟨⟩
  cases fuel with
  | zero =>
    cases h
    exact ⟨⟨none, none, rfl, plain⟩, .inl rfl⟩
  | succ fuel =>
    rcases visit_cases h with ⟨leaf, use⟩ | ⟨goes, below, rfl, walked⟩
    · cases leaf with
      | slot => exact ⟨⟨none, none, rfl, plain⟩, .inl rfl⟩
      | asset => exact ⟨⟨none, none, rfl, plain⟩, .inl rfl⟩
      | @use _ u fixed used =>
        refine ⟨⟨none, some u, rfl, fun u' same => ?_⟩, .inl rfl⟩
        cases same
        exact ⟨⟨use rfl, fixed⟩, _, _, used⟩
      | text characters => exact ⟨⟨some characters, none, rfl, plain⟩, .inl rfl⟩
    · exact ⟨⟨none, none, rfl, plain⟩, .inr ⟨fuel, below, _, _, rfl, goes, rfl, walked⟩⟩

/-- A node is written with the names of properties that are met at it. -/
private theorem exists_key_of_visit {fuel : Nat} {entry : Entry}
    (h : d.visit fuel n s = (s', .ok entry))
    (named : entry.node.visibilityProp = some p ∨ entry.node.Names p) :
    ∃ key ∈ n.propertyKeys, Text.propertyIdentifier key = p := by
  obtain ⟨⟨characters, use, written, used⟩, -⟩ := visit_entry h
  -- The references are written as they are, whatever is added for the content.
  have referred {key? : Option String} (refers : key?.map Text.propertyIdentifier = some p)
      (met : ∀ key, key? = some key → key ∈ n.propertyKeys) :
      ∃ key ∈ n.propertyKeys, Text.propertyIdentifier key = p := by
    obtain ⟨key, same, name⟩ := Option.map_eq_some_iff.1 refers
    exact ⟨key, met key same, name⟩
  rw [written] at named
  rcases named with shown | swap | text | ⟨use, handed⟩
  · exact referred shown fun key met => Node.mem_propertyKeys.2 (.inl met)
  · exact referred swap fun key met => Node.mem_propertyKeys.2 (.inr (.inr (.inl met)))
  · exact referred text fun key met => Node.mem_propertyKeys.2 (.inr (.inl met))
  · obtain ⟨inst, _, _, rendered⟩ := used _ use
    obtain ⟨bound, listed, name⟩ := boundTo_of_instanceUse rendered handed
    exact ⟨bound, Node.mem_propertyKeys.2 (.inr (.inr (.inr ⟨inst, listed⟩))), name⟩

/-- What elements of reached nodes refer to are properties whose keys the walk meets. -/
private theorem meets_of_visit {fuel : Nat} {entry : Entry} {m : Model} {translated : Bool}
    (reached : d.Reached root n) (h : d.visit fuel n s = (s', .ok entry))
    (named : entry.node.visibilityProp = some p ∨ .prop p ∈ (m.markup translated entry).uses) :
    ∃ key, d.MeetsKey root key ∧ Text.propertyIdentifier key = p := by
  -- The walk goes down with its fuel, and an element refers to what its node names and to what is below it.
  induction fuel using Nat.strongRecOn generalizing n s s' entry with
  | ind fuel ih =>
    have own (named : entry.node.visibilityProp = some p ∨ entry.node.Names p) :
        ∃ key, d.MeetsKey root key ∧ Text.propertyIdentifier key = p := by
      obtain ⟨key, met, name⟩ := exists_key_of_visit h named
      exact ⟨key, ⟨n, reached, met⟩, name⟩
    rcases named with shown | hp
    · exact own (.inl shown)
    · rcases Model.names_of_markup hp with names | ⟨e, he, named⟩
      · exact own (.inr names)
      · obtain ⟨-, none | ⟨f, below, _, _, rfl, goes, children, walked⟩⟩ := visit_entry h
        · rw [none] at he
          cases he
        · have listed : e ∈ below := by
            rw [children] at he
            cases below with
            | nil => cases he
            | cons _ _ => exact he
          obtain ⟨c, hc, _, _, visited⟩ := exists_visit_of_mem walked listed
          exact ih f (Nat.lt_succ_self f) (.deeper reached goes hc) visited named

/-! ## What the interface declares -/

/-- A description has the properties that the target defines. -/
private theorem keys_of_describe {id target : NodeId} {t : Node} {selected : Option NodeId}
    {descriptor : Descriptor} (targeted : d.compileTarget? id = some target)
    (found : d.node? target = some t) (described : d.describe id selected = .ok descriptor) :
    descriptor.properties.keys = t.propertyDefinitions.keys := by
  obtain ⟨f, entries, keeps⟩ :=
    entries_overrideDefaults t.propertyDefinitions (d.selectedValues t selected)
  obtain ⟨target', t', targets, found', -, -, -, -, properties⟩ := shown_of_describe described
  cases targeted.symm.trans targets
  cases found.symm.trans found'
  rw [properties, OrderedMap.keys, entries, List.map_map, OrderedMap.keys]
  exact List.map_congr_left fun e _ => (keeps e).1

end Document

/-- The interface has a member for every property, under the identifier of its key. -/
theorem Descriptor.exists_member {descriptor : Descriptor} {key : String}
    (h : key ∈ descriptor.properties.keys) :
    ∃ member ∈ descriptor.interface, member.name = Text.propertyIdentifier key := by
  obtain ⟨e, he, rfl⟩ := List.mem_map.1 h
  have declared : e ∈ PropertyOrder.declared descriptor.properties :=
    (PropertyOrder.sortBy_perm _ _ _).mem_iff.2 he
  exact ⟨_, List.mem_map_of_mem declared, rfl⟩

namespace ComponentModule

variable {d : Document} {settings : Settings} {id target : NodeId} {t : Node}
  {selected : Option NodeId} {descriptor : Descriptor} {log : List LogRecord} {model : Model}
  {written : ComponentModule}

/-- The condition of a class assigns what the key of another member than the shown one assigns. -/
private theorem exists_member_of_mem_classes (extracted : d.extract descriptor = (log, .ok model))
    (emitted : ofModel settings descriptor model = .ok written) {c : ClassList}
    (hc : c ∈ written.classes.getD []) {k : ConditionalClass} (hk : k ∈ c.conditional) :
    descriptor.isVariant = true ∧
      ∃ m ∈ d.otherMembers descriptor, k.assignments = VariantKey.parse m.variantKey := by
  obtain ⟨variant, e, he, rfl, -⟩ := exists_modifiers_of_mem_classes emitted hc
  obtain ⟨-, -, -, variants⟩ := Document.styles_extract extracted
  rw [variant, if_pos rfl] at variants
  obtain ⟨v, hv, rfl⟩ := List.mem_map.1 hk
  have recorded : v.1 ∈ (modifiersOf model.variants e.1).keys := by
    rw [modifiersOf, OrderedMap.get?_of_mem he]
    exact List.mem_map_of_mem (List.mem_of_mem_filter (List.mem_reverse.1 hv))
  rw [variants] at recorded
  obtain ⟨m, hm, -, key⟩ := Document.mem_keys_modifiersOf.1 recorded
  exact ⟨variant, m, hm, by rw [key]⟩

/-- Every property that a module uses is the name of a key that the walk meets, or of one that the key
of another member than the shown one assigns. -/
private theorem exists_key_of_mem_uses (extracted : d.extract descriptor = (log, .ok model))
    (emitted : ofModel settings descriptor model = .ok written) {p : String} (hp : .prop p ∈ written.uses) :
    ∃ key, Text.propertyIdentifier key = p ∧ (d.MeetsKey model.root.id key ∨
      descriptor.isVariant = true ∧
        ∃ m ∈ d.otherMembers descriptor, key ∈ (VariantKey.parse m.variantKey).map Prod.fst) := by
  rcases prop_mem.1 hp with ⟨c, hc, hp⟩ | hp
  · obtain ⟨k, hk, a, ha, rfl⟩ := ClassList.prop_mem.1 hp
    obtain ⟨variant, m, hm, assigned⟩ := exists_member_of_mem_classes extracted emitted hc hk
    exact ⟨a.1, rfl, .inr ⟨variant, m, hm, List.mem_map_of_mem (assigned ▸ ha)⟩⟩
  · obtain ⟨_, -, rfl⟩ := exists_of_ofModel emitted
    rw [Markup.prop_mem_usesAll] at hp
    obtain ⟨_, listed, named⟩ := hp
    rw [Model.markupAll_eq_map] at listed
    obtain ⟨entry, he, rfl⟩ := List.mem_map.1 listed
    obtain ⟨root, _, -, walked, shown, -⟩ := Document.exists_walk_of_extract extracted
    obtain ⟨n, hn, _, _, visited⟩ := Document.exists_visit_of_mem walked he
    obtain ⟨key, met, name⟩ := Document.meets_of_visit (.top hn) visited named
    rw [shown]
    exact ⟨key, name, .inl met⟩

/-- Every property in use is declared. Let the target define all keys that the walk meets, and all that the
keys of the members of a set other than the shown one assign. Then every property that is used in the text of the
module has its line in the interface that is written; and if any is used, the interface is written, and the function
takes properties of it. -/
theorem props_declared (targeted : d.compileTarget? id = some target)
    (found : d.node? target = some t) (described : d.describe id selected = .ok descriptor)
    (extracted : d.extract descriptor = (log, .ok model))
    (emitted : ofModel settings descriptor model = .ok written)
    (met : ∀ key, d.MeetsKey model.root.id key → key ∈ t.propertyDefinitions.keys)
    (assigned : descriptor.isVariant = true → ∀ m ∈ d.otherMembers descriptor,
      ∀ a ∈ VariantKey.parse m.variantKey, a.1 ∈ t.propertyDefinitions.keys) :
    written.Spells settings (written.text settings) ∧
      ∀ p, .prop p ∈ Piece.names (written.pieces settings) →
        (∃ members, written.interfaceBody? settings = some members ∧ ∃ line ∈ members, line.IsMember p) ∧
          ∃ body, written.functionBodyOf? settings written.propsParameter = some body := by
  refine ⟨spells_text settings written, fun p hp => ?_⟩
  rw [names_pieces] at hp
  obtain ⟨key, rfl, named⟩ := exists_key_of_mem_uses extracted emitted hp
  have defined : key ∈ t.propertyDefinitions.keys := by
    rcases named with meets | ⟨variant, m, hm, assigns⟩
    · exact met key meets
    · obtain ⟨a, ha, rfl⟩ := List.mem_map.1 assigns
      exact assigned variant m hm a ha
  rw [← Document.keys_of_describe targeted found described] at defined
  obtain ⟨member, declared, name⟩ := Descriptor.exists_member defined
  obtain ⟨_, -, rfl⟩ := exists_of_ofModel emitted
  have nonempty : descriptor.interface ≠ [] := List.ne_nil_of_mem declared
  exact ⟨⟨_, interfaceBody?_eq nonempty, _, List.mem_map_of_mem declared, name ▸ member.isMember_text settings⟩,
    _, functionBodyOf?_propsParameter nonempty⟩

end ComponentModule

/-! ## A set of banners -/

namespace Document

/-- Reached nodes belong to the document. -/
theorem Reached.mem_nodes {d : Document} {root : NodeId} {n : Node} (h : d.Reached root n) : n ∈ d.nodes := by
  cases h with
  | top hn => exact mem_nodes_of_mem_renderedChildren hn
  | deeper _ _ hn => exact mem_nodes_of_mem_renderedChildren hn

/-- A set of banners that defines what its members show. -/
def bannerSet : Node where
  id := "k"
  name := "Banner"
  kind := .componentSet
  children := ["m", "n"]
  propertyDefinitions := .ofList
    [("State", ⟨.variant, .text "Plain", ["Plain", "Round"]⟩), ("Title#1:0", ⟨.text, .text "", []⟩),
      ("Lead Icon#1:1", ⟨.instanceSwap, .text "b", []⟩),
      ("Can Close#1:2", ⟨.boolean, .bool true, []⟩), ("Label#1:3", ⟨.text, .text "", []⟩)]

/-- Banners with a title, a slot for an icon, and a button that may be hidden and gets its label from the
banner; the second banner has round corners. -/
def banners : Document :=
  filed
    [bannerSet,
      { id := "m", name := "Banner", kind := .component, children := ["t", "s", "i"]
        variantProperties := .ofList [("State", "Plain")] },
      { id := "t", name := "Title", kind := .text
        propertyReferences := { characters := some "Title#1:0" } },
      { id := "s", name := "Slot", kind := .componentInstance, mainComponent := some "b"
        propertyReferences := { mainComponent := some "Lead Icon#1:1" } },
      { id := "i", name := "Close", kind := .componentInstance, mainComponent := some "b"
        propertyReferences := { visible := some "Can Close#1:2" }
        componentProperties := .ofList
          [("Label", { kind := .text, value := .text "", boundTo := some "Label#1:3" })] },
      { id := "n", name := "Banner", kind := .component, cornerRadius := .one
        variantProperties := .ofList [("State", "Round")] },
      { id := "b", name := "Button", kind := .component }]

/-- The module of the banners uses properties in every way there is, and declares them all. -/
theorem props_declared_banners :
    ∃ descriptor written, banners.module? {} "m" none = some (descriptor, written) ∧
      Piece.names (written.pieces {}) =
        [.looks (.style "root"), .prop "state", .looks (.style "rootStateRound"),
          .tag (.primitive .view), .looks (.classes "root"),
          .tag (.primitive .text), .looks (.style "title"), .prop "title", .prop "leadIcon",
          .prop "canClose", .tag (.component "Button"), .prop "label"] ∧
      ∀ p ∈ ["state", "title", "leadIcon", "canClose", "label"],
        (∃ members, written.interfaceBody? {} = some members ∧ ∃ line ∈ members, line.IsMember p) ∧
          ∃ body, written.functionBodyOf? {} written.propsParameter = some body := by
  have values : (banners.module? {} "m" none).map
      (fun w => (w.1.id, w.1.rootNode, w.2.uses)) =
      some ("k", "m",
        [.looks (.style "root"), .prop "state", .looks (.style "rootStateRound"),
          .tag (.primitive .view), .looks (.classes "root"),
          .tag (.primitive .text), .looks (.style "title"), .prop "title", .prop "leadIcon",
          .prop "canClose", .tag (.component "Button"), .prop "label"]) := by decide +kernel
  obtain ⟨⟨descriptor, written⟩, module, values⟩ := Option.map_eq_some_iff.1 values
  obtain ⟨hid, hroot, uses⟩ : _ ∧ _ ∧ _ := by simpa only [Prod.mk.injEq] using values
  have names := (written.names_pieces {}).trans uses
  obtain ⟨described, log, model, extracted, emitted⟩ := module?_eq_some_iff.1 module
  have met : ∀ key, banners.MeetsKey model.root.id key → key ∈ bannerSet.propertyDefinitions.keys := by
    have everywhere : ∀ n ∈ banners.nodes, ∀ key ∈ n.propertyKeys,
        key ∈ bannerSet.propertyDefinitions.keys := by decide +kernel
    rintro key ⟨n, reached, hk⟩
    exact everywhere n reached.mem_nodes key hk
  have assigned : ∀ m ∈ banners.otherMembers descriptor, ∀ a ∈ VariantKey.parse m.variantKey,
      a.1 ∈ bannerSet.propertyDefinitions.keys := by
    rw [otherMembers, hid, hroot]
    decide +kernel
  have targeted : banners.compileTarget? "m" = some "k" := by decide +kernel
  have found : banners.node? "k" = some bannerSet := by decide +kernel
  obtain ⟨-, declared⟩ := ComponentModule.props_declared targeted found described extracted emitted met
    fun _ => assigned
  have used : ∀ p ∈ ["state", "title", "leadIcon", "canClose", "label"],
      Piece.prop p ∈ Piece.names (written.pieces {}) := by
    rw [names]
    decide
  exact ⟨descriptor, written, module, names, fun p hp => declared p (used p hp)⟩

end Document
end Handoff
