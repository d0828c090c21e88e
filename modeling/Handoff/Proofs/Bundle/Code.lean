import Handoff.Proofs.Bundle.Locality

/-!
# The module of a component

The code of a bundle depends on less than the bundle: not on the path of the component, not on the
defaults of its properties, not on the theme, and not on the icons that the document offers. What is
left is the target with its declared properties and texts, and what extraction looks at.
-/

namespace Handoff

/-! ## Interfaces -/

/-- The interface of a component does not depend on the defaults of its properties. -/
theorem InterfaceMember.map_ofDefinition_declared {p q : OrderedMap PropertyDefinition}
    {f : String × PropertyDefinition → String × PropertyDefinition}
    (entries : q.entries = p.entries.map f)
    (keeps : ∀ e, (f e).1 = e.1 ∧ (f e).2.kind = e.2.kind ∧ (f e).2.options = e.2.options) :
    (PropertyOrder.declared q).map ofDefinition = (PropertyOrder.declared p).map ofDefinition := by
  have sorted : PropertyOrder.declared q = (PropertyOrder.declared p).map f := by
    unfold PropertyOrder.declared PropertyOrder.sortBy
    rw [entries]
    symm
    apply List.map_mergeSort
    intro a _ b _
    simp only [(keeps a).1, (keeps a).2.1, (keeps b).1, (keeps b).2.1]
  rw [sorted, List.map_map]
  apply List.map_congr_left
  intro e _
  obtain ⟨name, kind, options⟩ := keeps e
  simp only [Function.comp, ofDefinition, name, kind, options]

/-- Overriding defaults changes neither the names nor the kinds nor the options of properties. -/
theorem entries_overrideDefaults (p : OrderedMap PropertyDefinition)
    (values : List (String × String)) :
    ∃ f : String × PropertyDefinition → String × PropertyDefinition,
      (overrideDefaults p values).entries = p.entries.map f ∧
        ∀ e, (f e).1 = e.1 ∧ (f e).2.kind = e.2.kind ∧ (f e).2.options = e.2.options := by
  induction values generalizing p with
  | nil => exact ⟨id, (List.map_id _).symm, fun _ => ⟨rfl, rfl, rfl⟩⟩
  | cons pair rest ih =>
    obtain ⟨f, entries, keeps⟩ := ih (p.modify pair.1 fun p =>
      if p.kind = .variant then { p with default := .text pair.2 } else p)
    let g (e : String × PropertyDefinition) : String × PropertyDefinition :=
      if e.1 = pair.1 then
        (e.1, if e.2.kind = .variant then { e.2 with default := .text pair.2 } else e.2)
      else e
    have keeps' (e : String × PropertyDefinition) :
        (g e).1 = e.1 ∧ (g e).2.kind = e.2.kind ∧ (g e).2.options = e.2.options := by
      simp only [g]
      split
      · split
        · exact ⟨rfl, rfl, rfl⟩
        · exact ⟨rfl, rfl, rfl⟩
      · exact ⟨rfl, rfl, rfl⟩
    refine ⟨f ∘ g, ?_, ?_⟩
    · rw [← List.map_map]
      exact entries
    · intro e
      obtain ⟨h₁, h₂, h₃⟩ := keeps (g e)
      obtain ⟨k₁, k₂, k₃⟩ := keeps' e
      exact ⟨h₁.trans k₁, h₂.trans k₂, h₃.trans k₃⟩

/-- Whether two descriptors describe the same module: the same target and shown node, and the same name,
interface and documentation. -/
structure Descriptor.SameModule (a b : Descriptor) : Prop where
  id : a.id = b.id
  name : a.name = b.name
  isVariant : a.isVariant = b.isVariant
  rootNode : a.rootNode = b.rootNode
  interface : a.interface = b.interface
  documentation : a.documentation = b.documentation

namespace Descriptor.SameModule

variable {a b : Descriptor} (same : a.SameModule b)
include same

/-- Such descriptors have the same model. -/
theorem extract_eq (d : Document) : d.extract a = d.extract b := by
  have members : d.otherMembers a = d.otherMembers b := by
    rw [Document.otherMembers, Document.otherMembers, same.id, same.rootNode]
  have variants : d.variantStyles a = d.variantStyles b := by
    funext base
    rw [Document.variantStyles, Document.variantStyles, members]
  simp only [Document.extract, same.rootNode, same.isVariant, variants]

/-- Such descriptors have the same module. -/
theorem ofModel_eq (s : Settings) (m : Model) :
    ComponentModule.ofModel s a m = ComponentModule.ofModel s b m := by
  have classes : ComponentModule.classesOf a m = ComponentModule.classesOf b m := by
    rw [ComponentModule.classesOf, ComponentModule.needsClasses, same.isVariant]
    rfl
  simp only [ComponentModule.ofModel, classes, same.id, same.name, same.interface,
    same.documentation]

end Descriptor.SameModule

namespace Document

variable {s : Settings} {target : NodeId}

/-- A bundle that is built has the text of the module of the descriptor and the model. -/
theorem code_of_compile {d : Document} {b : Bundle} (built : (d.compile s target).2 = .ok b) :
    ∃ descriptor m written, d.describe target (d.selectedChild? target) = .ok descriptor ∧
      (d.extract descriptor).2 = .ok m ∧ ComponentModule.ofModel s descriptor m = .ok written ∧
      b.code = written.text s := by
  obtain ⟨descriptor, m, written, described, extracted, emitted, rfl⟩ := compile_eq_ok_iff.1 built
  exact ⟨descriptor, m, written, described, extracted, emitted, rfl⟩

/-- A descriptor and a model with a module make a bundle with the text of that module. -/
theorem compile_of_code {d : Document} {descriptor : Descriptor} {m : Model}
    {written : ComponentModule}
    (described : d.describe target (d.selectedChild? target) = .ok descriptor)
    (extracted : (d.extract descriptor).2 = .ok m)
    (module : ComponentModule.ofModel s descriptor m = .ok written) :
    ∃ b, (d.compile s target).2 = .ok b ∧ b.code = written.text s := by
  exact ⟨_, compile_eq_ok_iff.2 ⟨descriptor, m, written, described, extracted, module, rfl⟩, rfl⟩

section

variable {d₁ d₂ : Document}

private theorem describe_sameModule (tree₁ : d₁.TreeShaped)
    (same : d₁.SameInside d₂ target) {n m : Node} (hn : d₁.node? target = some n)
    (hm : d₂.node? target = some m) (own₁ : d₁.compileTarget? target = some target)
    (own₂ : d₂.compileTarget? target = some target) {descriptor : Descriptor}
    (described : d₁.describe target (d₁.selectedChild? target) = .ok descriptor) :
    ∃ other, d₂.describe target (d₂.selectedChild? target) = .ok other ∧
      other.SameModule descriptor := by
  have hb : n.bare = m.bare := by
    have := same.node
    rw [hn, hm] at this
    exact Option.some.inj this
  have shown := shownNode_eq tree₁ same hn hm
  have definitions : n.propertyDefinitions = m.propertyDefinitions :=
    Node.eq_of_bare (fun _ => rfl) hb
  have description : n.description = m.description :=
    Node.eq_of_bare (fun _ => rfl) hb
  have links : n.documentationLinks = m.documentationLinks :=
    Node.eq_of_bare (fun _ => rfl) hb
  simp only [describe, hn, own₁, shown] at described
  simp only [describe, hm, own₂]
  split at described
  · cases described
  · next root hroot =>
    cases described
    refine ⟨_, rfl, ?_⟩
    obtain ⟨f₁, entries₁, keeps₁⟩ := entries_overrideDefaults n.propertyDefinitions
      (d₁.selectedValues n (d₁.selectedChild? target))
    obtain ⟨f₂, entries₂, keeps₂⟩ := entries_overrideDefaults m.propertyDefinitions
      (d₂.selectedValues m (d₂.selectedChild? target))
    exact
      { id := (Node.id_eq_of_bare hb).symm
        name := by rw [Node.name_eq_of_bare hb]
        isVariant := by rw [Node.kind_eq_of_bare hb]
        rootNode := rfl
        interface := by
          rw [Descriptor.interface, Descriptor.interface,
            InterfaceMember.map_ofDefinition_declared entries₁ keeps₁,
            InterfaceMember.map_ofDefinition_declared entries₂ keeps₂, definitions]
        documentation := by
          simp only [Descriptor.documentation, description, links] }

/-- The module of a target is local: trees that agree on what extraction looks at for it have the same
code. -/
theorem code_eq_of_sameInside (tree₁ : d₁.TreeShaped) (tree₂ : d₂.TreeShaped)
    (same : d₁.SameInside d₂ target) (own₁ : d₁.compileTarget? target = some target)
    (own₂ : d₂.compileTarget? target = some target) {b : Bundle}
    (built : (d₁.compile s target).2 = .ok b) :
    ∃ b', (d₂.compile s target).2 = .ok b' ∧ b'.code = b.code := by
  obtain ⟨n, hn, -⟩ := standsAlone_of_compileTarget? (keyed_of_linked tree₁.linked) own₁
  have node := same.node
  rw [hn, Option.map_some] at node
  obtain ⟨m, hm, -⟩ := Option.map_eq_some_iff.1 node.symm
  obtain ⟨descriptor, model, written, described, extracted, hw, code⟩ := code_of_compile built
  obtain ⟨other, described', fits⟩ := describe_sameModule tree₁ same hn hm own₁ own₂ described
  obtain ⟨hid, shown, variant⟩ :=
    shownNode_of_describe (keyed_of_linked tree₁.linked) hn own₁ described
  rw [extract_eq_of_describes tree₁ tree₂ same hn hm hid shown variant,
    ← fits.extract_eq] at extracted
  rw [← fits.ofModel_eq] at hw
  obtain ⟨b', built', code'⟩ := compile_of_code described' extracted hw
  exact ⟨b', built', code'.trans code.symm⟩

end
end Document
end Handoff
