import Handoff.Proofs.Bundle.Canonical
import Handoff.Proofs.Component.Modifiers
import Handoff.Proofs.Component.Reach
import Handoff.Proofs.Component.Termination
import Handoff.Proofs.Module.Classes
import Handoff.Proofs.Ordered.Attempts

/-!
# When compiling fails

Compiling fails if there is nothing to compile, if the walk of what is shown reaches an instance that leads
nowhere, or if some member of a set changes a style under a key that assigns nothing. Beyond that it fails
only in documents in which a node is found under an id other than its own: there a target, the shown node
or the target of a reached instance can be lost. Nothing else makes it fail, so themes, variables, swaps
and exports of assets never do. All this is about documents in which no chain of instances loops: there
every target is found, or found missing, in no more steps than there are nodes.
-/

namespace Handoff

/-! ## Class lists that cannot be written -/

private theorem ofKey_fails_iff {key : String} :
    (∃ e, ConditionalClass.ofKey key = .error e) ↔ VariantKey.parse key = [] := by
  unfold ConditionalClass.ofKey
  split
  · next none => simp [none]
  · next assigns => simp [show VariantKey.parse key ≠ [] from assigns]

private theorem ofModifiers_fails_iff {e : String × Modifiers} :
    (∃ err, ClassList.ofModifiers e = .error err) ↔
      ∃ v ∈ e.2.effective, VariantKey.parse v.1 = [] := by
  have keys : (∃ err, (e.2.effective.reverse.map Prod.fst).mapM ConditionalClass.ofKey = .error err) ↔
      ∃ v ∈ e.2.effective, VariantKey.parse v.1 = [] := by
    rw [mapM_fails_iff]
    simp [ofKey_fails_iff]
  rw [← keys, ClassList.ofModifiers]
  cases (e.2.effective.reverse.map Prod.fst).mapM ConditionalClass.ofKey <;>
    simp [bind, Except.bind, pure, Except.pure]

/-- The class lists of a model cannot be written if the key of an effective modifier of some slug assigns
nothing. -/
private theorem classLists_fails_iff {m : Model} : (∃ e, m.classLists = .error e) ↔
    ∃ slug, ∃ v ∈ (modifiersOf m.variants slug).effective, VariantKey.parse v.1 = [] := by
  have listed : (∃ e, m.classLists = .error e) ↔
      ∃ e ∈ m.variants.entries, ∃ v ∈ e.2.effective, VariantKey.parse v.1 = [] := by
    simp only [← ofModifiers_fails_iff, ← mapM_fails_iff, Model.classLists]
    cases m.variants.entries.mapM ClassList.ofModifiers <;>
      simp [bind, Except.bind, pure, Except.pure]
  rw [listed]
  constructor
  · rintro ⟨⟨slug, modifiers⟩, he, unreadable⟩
    refine ⟨slug, ?_⟩
    rw [modifiersOf, OrderedMap.get?_of_mem he]
    exact unreadable
  · rintro ⟨slug, v, hv, unreadable⟩
    cases found : m.variants.get? slug with
    | none => simp [modifiersOf, found, Modifiers.effective, OrderedMap.empty] at hv
    | some modifiers =>
      rw [modifiersOf, found] at hv
      exact ⟨(slug, modifiers), OrderedMap.mem_of_get? found, v, hv, unreadable⟩

/-- A module cannot be written if it is that of a set and the key of an effective modifier of some slug
assigns nothing. -/
theorem ComponentModule.ofModel_fails_iff {s : Settings} {descriptor : Descriptor} {m : Model} :
    (∃ e, ofModel s descriptor m = .error e) ↔ descriptor.isVariant = true ∧
      ∃ slug, ∃ v ∈ (modifiersOf m.variants slug).effective, VariantKey.parse v.1 = [] := by
  have emptied (h : m.variants.isEmpty = true) :
      ¬ ∃ slug, ∃ v ∈ (modifiersOf m.variants slug).effective, VariantKey.parse v.1 = [] := by
    have none : m.variants = .empty := OrderedMap.ext (List.isEmpty_iff.1 h)
    simp [none, modifiersOf, Modifiers.effective, OrderedMap.empty, OrderedMap.get?]
  have classes : (∃ e, ofModel s descriptor m = .error e) ↔ ∃ e, classesOf descriptor m = .error e := by
    unfold ofModel
    cases classesOf descriptor m <;> simp [bind, Except.bind, pure, Except.pure]
  rw [classes, classesOf, needsClasses]
  cases descriptor.isVariant with
  | false => simp
  | true =>
    cases empty : m.variants.isEmpty with
    | true => simpa using emptied empty
    | false =>
      rw [← classLists_fails_iff]
      cases m.classLists <;> simp [Except.map]

/-- The key of a member assigns nothing if the member has no values and its name holds no equals sign. -/
theorem Node.parse_variantKey_eq_nil_iff {m : Node} :
    VariantKey.parse m.variantKey = [] ↔
      m.variantProperties.isEmpty = true ∧ '=' ∉ m.name.toList := by
  rw [VariantKey.parse_eq_nil_iff, variantKey]
  split
  · next none => simp [none]
  · next some =>
    have assigns : m.variantProperties.entries ≠ [] := by simpa [OrderedMap.isEmpty] using some
    simp [some, VariantKey.mem_ofAssignments assigns]

namespace Document

variable {d : Document} {id rootId : NodeId} {t root : Node}

/-! ## What is shown -/

/-- Whether compiling an id shows the subtree below some id for a target. -/
structure Shows (d : Document) (id : NodeId) (t : Node) (rootId : NodeId) : Prop where
  target : ∃ target, d.compileTarget? id = some target ∧ d.node? target = some t
  shown : d.shownNode t = .ok rootId

/-- What is shown for an id is described. -/
theorem Shows.describe (shows : d.Shows id t rootId) (selected : Option NodeId) :
    ∃ descriptor, d.describe id selected = .ok descriptor ∧ descriptor.id = t.id ∧
      descriptor.rootNode = rootId ∧ descriptor.isVariant = (t.kind == .componentSet) := by
  obtain ⟨target, targets, found⟩ := shows.target
  cases hn : d.node? id with
  | none => simp [compileTarget?_of_not_found hn] at targets
  | some n => simp [Document.describe, hn, targets, found, shows.shown]

/-- What is described for an id is shown. -/
theorem shows_of_describe {selected : Option NodeId} {descriptor : Descriptor}
    (h : d.describe id selected = .ok descriptor) : ∃ t, d.Shows id t descriptor.rootNode := by
  obtain ⟨target, t, targets, found, shown, -⟩ := shown_of_describe h
  exact ⟨t, ⟨target, targets, found⟩, shown⟩

/-- Why compiling may fail: the id names no node or has no target, the target is a set without members,
what is shown reaches an instance that leads nowhere, or a member that is not shown changes the style of a
slug although it has no values and no equals sign in its name. -/
inductive Uncompilable (d : Document) (id : NodeId) : Prop where
  | noNode : d.node? id = none → Uncompilable d id
  | noTarget : d.compileTarget? id = none → Uncompilable d id
  | noMembers {target : NodeId} {t : Node} : d.compileTarget? id = some target →
    d.node? target = some t → t.kind = .componentSet → d.members t.id = [] → Uncompilable d id
  | leadsNowhere {t root n : Node} {rootId : NodeId} : d.Shows id t rootId →
    d.node? rootId = some root → d.Reached root.id n → RendersInstance n → d.LeadsNowhere n →
    Uncompilable d id
  | unreadable {t root m : Node} {rootId : NodeId} {slug : String} : d.Shows id t rootId →
    d.node? rootId = some root → t.kind = .componentSet → m ∈ d.members t.id → m.id ≠ rootId →
    (d.memberPatch? (d.subtreeStyles root) m slug).isSome = true →
    m.variantProperties.isEmpty = true → '=' ∉ m.name.toList → Uncompilable d id

/-- Whether something that compiling needs is not found under its own id: the target, the shown node, or the
target of a reached instance. -/
inductive Mislaid (d : Document) (id : NodeId) : Prop where
  | target {target : NodeId} : d.compileTarget? id = some target → d.node? target = none → Mislaid d id
  | shown {t : Node} {rootId : NodeId} : d.Shows id t rootId → d.node? rootId = none → Mislaid d id
  | main {t root n : Node} {rootId : NodeId} : d.Shows id t rootId → d.node? rootId = some root →
    d.Reached root.id n → RendersInstance n → d.LosesTarget n → Mislaid d id

/-- Extraction fails if the node to show is not found, or its walk reaches an unusable instance. -/
theorem extract_fails_iff {descriptor : Descriptor} :
    (∃ e, (d.extract descriptor).2 = .error e) ↔ d.node? descriptor.rootNode = none ∨
      ∃ root, d.node? descriptor.rootNode = some root ∧
        ∃ n, d.Reached root.id n ∧ RendersInstance n ∧ d.Unusable n := by
  unfold extract
  cases d.node? descriptor.rootNode with
  | none => simp
  | some root =>
    simp only [reduceCtorEq, Option.some.injEq, exists_eq_left', false_or,
      ← walk_fails_iff (s := d.startCapture root)]
    split <;> next h => simp [h]

/-- The module of an extracted set cannot be written if a member that is not shown changes the style of some
slug under a key that assigns nothing. -/
private theorem ofModel_fails_iff_of_extract {s : Settings} {descriptor : Descriptor}
    {log : List LogRecord} {model : Model} (extracted : d.extract descriptor = (log, .ok model))
    (hroot : d.node? descriptor.rootNode = some root) :
    (∃ e, ComponentModule.ofModel s descriptor model = .error e) ↔ descriptor.isVariant = true ∧
      ∃ slug, ∃ m ∈ d.otherMembers descriptor,
        (d.memberPatch? (d.subtreeStyles root) m slug).isSome = true ∧
          VariantKey.parse m.variantKey = [] := by
  obtain ⟨root', hroot', styles, variants⟩ := styles_extract extracted
  cases hroot.symm.trans hroot'
  rw [ComponentModule.ofModel_fails_iff]
  refine and_congr_right fun variant => exists_congr fun slug => ?_
  rw [variant, if_pos rfl, styles] at variants
  rw [variants, effective_variantStyles]
  constructor
  · rintro ⟨v, hv, unreadable⟩
    obtain ⟨m, hm, needs, key⟩ := mem_keys_modifiersOf.1 (List.mem_map_of_mem hv)
    exact ⟨m, hm, needs, key ▸ unreadable⟩
  · rintro ⟨m, hm, needs, unreadable⟩
    obtain ⟨v, hv, key⟩ := List.mem_map.1 (mem_keys_modifiersOf.2 ⟨m, hm, needs, rfl⟩)
    exact ⟨v, hv, key ▸ unreadable⟩

/-- What is shown for an id fails to compile if the shown node is not found, its walk reaches an unusable
instance, or a member cannot be written. -/
private theorem compile_fails_iff_of_shows (s : Settings) (shows : d.Shows id t rootId) :
    (∃ e, (d.compile s id).2 = .error e) ↔ d.node? rootId = none ∨
      ∃ root, d.node? rootId = some root ∧
        ((∃ n, d.Reached root.id n ∧ RendersInstance n ∧ d.Unusable n) ∨
          t.kind = .componentSet ∧ ∃ slug, ∃ m ∈ d.members t.id, m.id ≠ rootId ∧
            (d.memberPatch? (d.subtreeStyles root) m slug).isSome = true ∧
              VariantKey.parse m.variantKey = []) := by
  obtain ⟨descriptor, described, same, rfl, variant⟩ := shows.describe (d.selectedChild? id)
  have extracts : (∃ e, (d.extract descriptor).2 = .error e) ↔ _ := extract_fails_iff
  rw [compile_eq_compileShowing]
  simp only [compileShowing, described, compileDescribed]
  cases hx : d.extract descriptor with
  | mk log result =>
    rw [hx] at extracts
    cases result with
    | error e =>
      refine iff_of_true ⟨e, rfl⟩ ((extracts.1 ⟨e, rfl⟩).imp_right ?_)
      rintro ⟨root, hroot, walk⟩
      exact ⟨root, hroot, .inl walk⟩
    | ok model =>
      -- A model has been extracted, so only the class lists are left to fail.
      have walked : ¬ _ := fun reached => by
        obtain ⟨e, he⟩ := extracts.2 reached
        cases he
      obtain ⟨root, hroot, -⟩ := styles_extract hx
      have written := ofModel_fails_iff_of_extract (s := s) hx hroot
      have mapped : (∃ e, (ComponentModule.ofModel s descriptor model).map
          (d.bundleOf s descriptor model) = .error e) ↔
            ∃ e, ComponentModule.ofModel s descriptor model = .error e := by
        cases ComponentModule.ofModel s descriptor model <;> simp [Except.map]
      simp only [mem_otherMembers, same, variant, beq_iff_eq, and_assoc] at written
      simp only [mapped, written, hroot, reduceCtorEq, Option.some.injEq, exists_eq_left', false_or]
      refine ⟨.inr, fun reasons => reasons.resolve_left fun walk => ?_⟩
      exact walked (.inr ⟨root, hroot, walk⟩)

private theorem compile_fails_of_not_shows (s : Settings) (none : ∀ t rootId, ¬ d.Shows id t rootId) :
    ∃ e, (d.compile s id).2 = .error e := by
  rw [compile_eq_compileShowing, compileShowing]
  cases described : d.describe id (d.selectedChild? id) with
  | error e => exact ⟨e, rfl⟩
  | ok descriptor =>
    obtain ⟨t, shows⟩ := shows_of_describe described
    exact absurd shows (none t _)

/-- What is uncompilable fails to compile. -/
theorem Uncompilable.fails (s : Settings) (h : d.Uncompilable id) :
    ∃ e, (d.compile s id).2 = .error e := by
  cases h with
  | noNode absent =>
    refine compile_fails_of_not_shows s fun t rootId shows => ?_
    obtain ⟨target, targets, -⟩ := shows.target
    simp [compileTarget?_of_not_found absent] at targets
  | noTarget none =>
    refine compile_fails_of_not_shows s fun t rootId shows => ?_
    obtain ⟨target, targets, -⟩ := shows.target
    simp [none] at targets
  | @noMembers target t targets found set none =>
    refine compile_fails_of_not_shows s fun t' rootId shows => ?_
    obtain ⟨target', targets', found'⟩ := shows.target
    cases targets.symm.trans targets'
    cases found.symm.trans found'
    have first : (d.children t.id).find? (·.kind == .component) = Option.none :=
      List.find?_eq_none.2 (List.filter_eq_nil_iff.1 none)
    have shown := shows.shown
    simp [shownNode, set, first] at shown
  | leadsNowhere shows hroot reached renders leads =>
    exact (compile_fails_iff_of_shows s shows).2 (.inr ⟨_, hroot, .inl ⟨_, reached, renders, .inl leads⟩⟩)
  | unreadable shows hroot set hm other needs noValues noSign =>
    have key := Node.parse_variantKey_eq_nil_iff.2 ⟨noValues, noSign⟩
    exact (compile_fails_iff_of_shows s shows).2 (.inr ⟨_, hroot, .inr ⟨set, _, _, hm, other, needs, key⟩⟩)

/-- Where something is mislaid, compiling fails. -/
theorem Mislaid.fails (s : Settings) (h : d.Mislaid id) : ∃ e, (d.compile s id).2 = .error e := by
  cases h with
  | target targets absent =>
    refine compile_fails_of_not_shows s fun t rootId shows => ?_
    obtain ⟨target, targets', found⟩ := shows.target
    cases targets.symm.trans targets'
    simp [absent] at found
  | shown shows absent => exact (compile_fails_iff_of_shows s shows).2 (.inl absent)
  | main shows hroot reached renders loses =>
    exact (compile_fails_iff_of_shows s shows).2 (.inr ⟨_, hroot, .inl ⟨_, reached, renders, .inr loses⟩⟩)

end Document
end Handoff
