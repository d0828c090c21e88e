import Handoff.Module.Component
import Handoff.Proofs.Component.Walk

/-!
# Elements of walked nodes

A leaf of a walk becomes a slot, the element of an asset, the element of an instance, or a text with a
primitive tag. A container becomes its primitive tag around the elements of what renders below it; with
nothing below, the tag stands alone. Together these are the body of the module that is written.
-/

namespace Handoff.Document

variable {d : Document} {s s' : Capture} {n : Node}

/-- The element of a leaf, with what has been captured after it. -/
theorem Leaf.rendered {entry : Entry} (m : Model) (translated : Bool) (h : d.Leaf s n entry s') :
    (∃ prop, m.markup translated entry = .slot prop ∧ s' = s.addLinks n) ∨
    (m.markup translated entry = m.assetMarkup (modelNode n) ∧ s' = (s.addLinks n).addAsset d n) ∨
    (∃ u, m.markup translated entry = u.markup ∧ d.instanceUse (s.addLinks n) n = (s', .ok u)) ∨
    (∃ written : ModelNode, m.markup translated entry =
        .text (modelNode n).tag (m.looksOfNode (modelNode n)) (written.content translated) ∧
        n.kind = .text ∧ s' = d.enter s n) := by
  cases h with
  | slot swap =>
    obtain ⟨prop, hprop⟩ := Option.isSome_iff_exists.1 swap
    refine .inl ⟨Text.propertyIdentifier prop, ?_, rfl⟩
    simp [Entry.leaf, Model.markup, Model.leafMarkup?, modelNode, hprop]
  | asset fixed _ =>
    refine .inr (.inl ⟨?_, rfl⟩)
    simp [Model.markup, Model.leafMarkup?, modelNode, fixed]
  | @use _ u fixed used =>
    refine .inr (.inr (.inl ⟨u, ?_, used⟩))
    simp [Entry.leaf, Model.markup, Model.leafMarkup?, modelNode, fixed]
  | text characters fixed kind =>
    let written : ModelNode := { modelNode n with characters := some characters }
    refine .inr (.inr (.inr ⟨written, ?_, kind, rfl⟩))
    simp [written, Entry.leaf, Model.markup, Model.leafMarkup?, Model.looksOfNode, modelNode, fixed, kind]

/-- The element of a container. -/
theorem markup_container (m : Model) (translated : Bool) (goes : n.endsWalk = false)
    (below : List Entry) :
    m.markup translated (.mk (modelNode n) (someEntries below) false) =
      if below = [] then .empty (modelNode n).tag (m.looksOfNode (modelNode n))
      else
        .container (modelNode n).tag (m.looksOfNode (modelNode n)) (m.markupAll translated below) := by
  obtain ⟨⟨⟨fixed, -⟩, -⟩, noText⟩ := by simpa [Node.endsWalk] using goes
  have noLeaf : m.leafMarkup? translated (modelNode n) false = none := by
    simp [Model.leafMarkup?, modelNode, fixed, noText]
  cases below with
  | nil =>
    rw [if_pos rfl, someEntries, Model.markup, noLeaf]
    rfl
  | cons first rest =>
    rw [if_neg (List.cons_ne_nil _ _), someEntries, Model.markup, noLeaf]
    · rfl
    · exact List.cons_ne_nil _ _

/-- The description of the component of a node with the module that is written of it, if all succeeds. -/
def module? (d : Document) (settings : Settings) (id : NodeId) (selected : Option NodeId) :
    Option (Descriptor × ComponentModule) :=
  (d.describe id selected).toOption.bind fun descriptor =>
    (d.extract descriptor).2.toOption.bind fun m =>
      (ComponentModule.ofModel settings descriptor m).toOption.map (descriptor, ·)

private theorem toOption_eq_some_iff {α ε : Type} {x : Except ε α} {a : α} :
    x.toOption = some a ↔ x = .ok a := by
  cases x <;> simp [Except.toOption]

/-- A module is written of the model that is extracted for the description. -/
theorem module?_eq_some_iff {settings : Settings} {id : NodeId} {selected : Option NodeId}
    {descriptor : Descriptor} {written : ComponentModule} :
    d.module? settings id selected = some (descriptor, written) ↔
      d.describe id selected = .ok descriptor ∧
        ∃ log m, d.extract descriptor = (log, .ok m) ∧
          ComponentModule.ofModel settings descriptor m = .ok written := by
  simp only [module?, Option.bind_eq_some_iff, Option.map_eq_some_iff, toOption_eq_some_iff,
    Prod.mk.injEq]
  constructor
  · rintro ⟨_, described, m, extracted, _, emitted, rfl, rfl⟩
    exact ⟨described, _, m, Prod.ext rfl extracted, emitted⟩
  · rintro ⟨described, log, m, extracted, emitted⟩
    exact ⟨_, described, m, by rw [extracted], _, emitted, rfl, rfl⟩

end Handoff.Document
