import Handoff.Proofs.Component.Modifiers
import Handoff.Proofs.Scene.Tree

/-!
# Members with the same subtree

The walk that builds a model and the walk that collects the styles of a member follow the same rules, so
the base styles are what the style walk collects for the shown node. A member whose subtree is the same as
that of the shown node therefore has the same styles for the same slugs, and adds nothing to the modifiers
of any slug.
-/

namespace Handoff

/-- A node as far as its looks and its part in the walk go: without its id, its children and the data of
tools. -/
def Node.face (n : Node) : Node := { n with id := "", children := [], pluginData := .empty }

/-- A style is led to itself by the empty patch. -/
theorem StyleMap.isEmpty_patch_self (m : StyleMap) : (m.patch m).isEmpty = true := by
  have set : m.entries.filter (fun e => !holds m e.1 e.2) = [] := by
    rw [List.filter_eq_nil_iff]
    intro e he
    simp [holds, OrderedMap.get?_of_mem he, StyleValue.same_refl]
  have lost : m.keys.filter (fun k => !m.contains k) = [] := by
    rw [List.filter_eq_nil_iff]
    intro k hk
    simp [OrderedMap.contains, hk]
  rw [patch, set, lost]
  rfl

namespace Document

variable {d : Document} {n m root member : Node} {a b : NodeId} {base : OrderedMap StyleMap} {slug : String}

/-- Whether the same is below two ids down to some depth: the children come in the same order with the same
faces, and the same is below them. -/
def SameBelow (d : Document) : Nat → NodeId → NodeId → Prop
  | 0, _, _ => True
  | depth + 1, a, b =>
    List.Forall₂ (fun n m => n.face = m.face ∧ d.SameBelow depth n.id m.id) (d.children a) (d.children b)

instance : ∀ depth a b, Decidable (d.SameBelow depth a b)
  | 0, _, _ => inferInstanceAs (Decidable True)
  | depth + 1, a, b =>
    have (n m : Node) : Decidable (d.SameBelow depth n.id m.id) := instDecidableSameBelow depth n.id m.id
    inferInstanceAs (Decidable (List.Forall₂
      (fun n m => n.face = m.face ∧ d.SameBelow depth n.id m.id) (d.children a) (d.children b)))

/-- Whether two nodes have the same subtree: they look the same, and the same is below them, as deep as walks
go. Members of one set differ in their values, so faces are compared only below them. -/
structure SameSubtree (d : Document) (n m : Node) : Prop where
  looks : Style.resolve d n = Style.resolve d m
  below : d.SameBelow d.walkBound n.id m.id

private theorem collectChild_eq {fuel : Nat} (face : n.face = m.face)
    (below : ∀ styles, d.collectStyles fuel n.id styles = d.collectStyles fuel m.id styles)
    (styles : OrderedMap StyleMap) : d.collectChild fuel styles n = d.collectChild fuel styles m := by
  have skipped : isSkipped n = isSkipped m := by
    show isSkipped n.face = isSkipped m.face
    rw [face]
  have looks : Style.resolve d n = Style.resolve d m := by
    show Style.resolve d n.face = Style.resolve d m.face
    rw [face]
  have name : n.name = m.name := by
    show n.face.name = m.face.name
    rw [face]
  have kind : n.kind = m.kind := by
    show n.face.kind = m.face.kind
    rw [face]
  simp only [collectChild, skipped, looks, name, kind, below]

/-- The style walk collects the same below two ids if the same is below them. -/
theorem collectStyles_eq_of_sameBelow {fuel : Nat} (same : d.SameBelow fuel a b)
    (styles : OrderedMap StyleMap) : d.collectStyles fuel a styles = d.collectStyles fuel b styles := by
  induction fuel generalizing a b styles with
  | zero => rfl
  | succ fuel ih =>
    show (d.children a).foldl (d.collectChild fuel) styles = (d.children b).foldl (d.collectChild fuel) styles
    rw [SameBelow] at same
    generalize d.children a = left, d.children b = right at same
    induction same generalizing styles with
    | nil => rfl
    | cons first _ others =>
      rw [List.foldl_cons, List.foldl_cons, collectChild_eq first.1 (fun styles => ih first.2 styles), others]

/-- Nodes with the same subtree have the same styles by slug. -/
theorem SameSubtree.subtreeStyles_eq (same : d.SameSubtree n m) : d.subtreeStyles n = d.subtreeStyles m := by
  rw [subtreeStyles, subtreeStyles, same.looks, collectStyles_eq_of_sameBelow same.below]

/-- A member needs no patches for the slugs of its own styles. -/
theorem memberPatch?_own : d.memberPatch? (d.subtreeStyles member) member slug = none := by
  unfold memberPatch?
  cases h : (d.subtreeStyles member).get? slug with
  | none => rfl
  | some style => simp [effectivePatch?, StyleMap.isEmpty_patch_self]

/-- A member that needs no patch for any slug adds nothing to the modifiers. -/
theorem addMember_of_memberPatch?_eq_none (none : ∀ slug, d.memberPatch? base member slug = none)
    (variants : OrderedMap Modifiers) : d.addMember base variants member = variants := by
  refine List.foldlRecOn (motive := fun result => result = variants) base.entries _ rfl ?_
  rintro _ rfl e he
  have unneeded := none e.1
  unfold memberPatch? at unneeded
  rw [OrderedMap.get?_of_mem he, Option.bind_some] at unneeded
  unfold addModifier
  cases own : (d.subtreeStyles member).get? e.1 with
  | none => rfl
  | some style =>
    rw [own, Option.bind_some, effectivePatch?] at unneeded
    split at unneeded
    · next empty => exact if_pos empty
    · cases unneeded

/-- The two walks over styles agree. The base styles are, entry by entry, what the style walk collects for the
shown node, with the looks of this node under the root slug. So a member whose subtree is the same needs no
patch for any slug, and recording its patches changes no modifiers. -/
theorem styles_collected {descriptor : Descriptor} {log : List LogRecord} {model : Model}
    (extracted : d.extract descriptor = (log, .ok model)) :
    ∃ root, d.node? descriptor.rootNode = some root ∧
      model.styles.entries = (d.collectStyles d.walkBound root.id
        (OrderedMap.empty.insert rootSlug (Style.resolve d root))).entries ∧
      ∀ member, d.SameSubtree root member →
        (∀ slug, d.memberPatch? model.styles member slug = none) ∧
          ∀ variants, d.addMember model.styles variants member = variants := by
  obtain ⟨root, hroot, styles, -⟩ := styles_extract extracted
  refine ⟨root, hroot, congrArg OrderedMap.entries styles, fun member same => ?_⟩
  have none (slug : String) : d.memberPatch? model.styles member slug = none := by
    rw [styles, same.subtreeStyles_eq, memberPatch?_own]
  exact ⟨none, addMember_of_memberPatch?_eq_none none⟩

/-- A member of a set of cards. -/
def card (id box state : String) : Node :=
  { id, name := "Card", kind := .component, children := [box]
    variantProperties := .ofList [("State", state)] }

/-- A set of three cards with a box and a caption: the second has the subtree of the first one, and the box of
the third is clear. -/
def twinCards : Document :=
  filed
    [{ id := "k", name := "Cards", kind := .componentSet, children := ["a", "b", "c"] },
      card "a" "af" "Default", { id := "af", name := "Box", kind := .frame, children := ["at"] },
      { id := "at", name := "Caption", kind := .text },
      card "b" "bf" "Focus", { id := "bf", name := "Box", kind := .frame, children := ["bt"] },
      { id := "bt", name := "Caption", kind := .text },
      card "c" "cf" "Hover", { id := "cf", name := "Box", kind := .frame, opacity := .zero }]

/-- In the set of cards the second card has the subtree of the first one and changes no modifiers; the box has
modifiers from the third card only. -/
theorem styles_collected_twinCards :
    ∃ descriptor log model, twinCards.describe "k" none = .ok descriptor ∧
      twinCards.extract descriptor = (log, .ok model) ∧
      twinCards.node? descriptor.rootNode = some (card "a" "af" "Default") ∧
      twinCards.otherMembers descriptor = [card "b" "bf" "Focus", card "c" "cf" "Hover"] ∧
      twinCards.SameSubtree (card "a" "af" "Default") (card "b" "bf" "Focus") ∧
      (modifiersOf model.variants "box").keys = ["State=Hover"] ∧
      ∀ variants, twinCards.addMember model.styles variants (card "b" "bf" "Focus") = variants := by
  have found : (twinCards.describe "k" none).toOption.map (fun descriptor =>
      (twinCards.node? descriptor.rootNode, twinCards.otherMembers descriptor,
        (twinCards.extract descriptor).2.toOption.map fun model =>
          (modifiersOf model.variants "box").keys)) =
      some (some (card "a" "af" "Default"), [card "b" "bf" "Focus", card "c" "cf" "Hover"],
        some ["State=Hover"]) := by
    decide +kernel
  cases described : twinCards.describe "k" none with
  | error e => simp [described, Except.toOption] at found
  | ok descriptor =>
    simp only [described, Except.toOption, Option.map_some, Option.some.injEq, Prod.mk.injEq] at found
    obtain ⟨hroot, others, found⟩ := found
    cases extracted : twinCards.extract descriptor with
    | mk log result =>
      cases result with
      | error e => simp [extracted] at found
      | ok model =>
        simp only [extracted, Option.map_some, Option.some.injEq] at found
        obtain ⟨root, hr, -, twins⟩ := styles_collected extracted
        obtain rfl := Option.some.inj (hroot.symm.trans hr)
        have same : twinCards.SameSubtree (card "a" "af" "Default") (card "b" "bf" "Focus") :=
          ⟨by decide +kernel, by decide +kernel⟩
        exact ⟨descriptor, log, model, rfl, extracted, hroot, others, same, found, (twins _ same).2⟩

end Document
end Handoff
