import Handoff.Proofs.Module.Classes
import Handoff.Proofs.Module.Rendering

/-!
# Looks resolve

What a module refers to as looks is either a style or a class list. The walk gives a style to every slug
that markup refers to, and a slug whose looks are a class list has one, since some variant of it has a
patch; each patch with a class has its style in the sheet, after that of the slug. So no reference in a line of
the module is left without what it names, and this is written, too.
-/

namespace Handoff

namespace ComponentModule

/-- Whether a module defines looks where it is read: the style sheet has an entry of the name, or the function has
an object of class lists with a list for the slug. -/
def Defines (s : Settings) (m : ComponentModule) : StyleRef → Prop
  | .style name => ∃ entries, m.HasSheet s entries ∧ name ∈ entries.map Prod.fst
  | .classes slug => ∃ lines, m.classLines? s slug = some lines

end ComponentModule

/-! ## Looks among the names -/

section

variable {r : StyleRef}

private theorem looks_notMem_attribute (value : AttributeValue) : .looks r ∉ value.uses := by
  cases value <;> simp [AttributeValue.uses]

private theorem looks_notMem_content (content : TextContent) : .looks r ∉ content.uses := by
  rcases content with name | ⟨characters, _ | _⟩ <;> simp [TextContent.uses]

namespace Markup

variable {tag : Primitive} {own : Option StyleRef} {elements : List (Option String × Markup)}

theorem looks_notMem_use (component : String) (attributes : List (String × AttributeValue)) :
    .looks r ∉ (use component attributes).uses := by
  simp [uses, looks_notMem_attribute]

theorem looks_mem_text {content : TextContent} : .looks r ∈ (text tag own content).uses ↔ own = some r := by
  simp [uses, looks_notMem_content]

theorem looks_mem_empty : .looks r ∈ (empty tag own).uses ↔ own = some r := by
  simp [uses]

/-- The looks in a container are its own and those below. -/
theorem looks_mem_container :
    .looks r ∈ (container tag own elements).uses ↔ own = some r ∨ .looks r ∈ usesAll elements := by
  simp [uses]

/-- The looks in elements are those in the first one and those in the others. -/
theorem looks_mem_usesAll {condition : Option String} {element : Markup} :
    .looks r ∈ usesAll ((condition, element) :: elements) ↔ .looks r ∈ element.uses ∨ .looks r ∈ usesAll elements := by
  simp [usesAll]

end Markup

/-- The looks in a class list are the style of the slug and those of the conditional classes. -/
theorem ClassList.looks_mem {c : ClassList} : .looks r ∈ c.uses ↔
    r = .style c.slug ∨ ∃ k ∈ c.conditional, r = .style (VariantKey.className c.slug k.variantKey) := by
  simp [uses, List.mem_flatMap]

/-- The looks in a module are those in its class lists, in the root tag, and in the elements below. -/
theorem ComponentModule.looks_mem {m : ComponentModule} : .looks r ∈ m.uses ↔
    (∃ c ∈ m.classes.getD [], .looks r ∈ c.uses) ∨ r = m.rootLooks ∨ .looks r ∈ Markup.usesAll m.body := by
  simp [uses, List.mem_flatMap]

end

/-! ## Slugs of walked nodes -/

namespace Document

variable {d : Document} {s s' : Capture} {n : Node} {m : Model}

private theorem looks_of_entered {r : StyleRef} (h : m.looksOfNode (modelNode n) = some r) :
    ∃ slug ∈ (d.enter s n).styles.keys, r = m.looksOf slug := by
  unfold Model.looksOfNode at h
  split at h
  · cases h
  · next named =>
    cases h
    exact ⟨_, Capture.mem_keys_addStyle (by simpa using named), rfl⟩

private theorem looks_of_leaf {entry : Entry} {translated : Bool} {r : StyleRef} (h : d.Leaf s n entry s')
    (hr : .looks r ∈ (m.markup translated entry).uses) : ∃ slug ∈ s'.styles.keys, r = m.looksOf slug := by
  rcases h.rendered m translated with ⟨prop, hm, -⟩ | ⟨hm, -⟩ | ⟨u, hm, -⟩ | ⟨written, hm, -, rfl⟩ <;>
    rw [hm] at hr
  · simp [Markup.uses] at hr
  · unfold Model.assetMarkup at hr
    split at hr <;> simp [Markup.uses] at hr
  · unfold InstanceUse.markup at hr
    split at hr
    · simp [Markup.uses] at hr
    · exact absurd hr (Markup.looks_notMem_use _ _)
  · exact looks_of_entered (Markup.looks_mem_text.1 hr)

/-- Elements of walked nodes refer to the looks of slugs that have been given a style. -/
theorem looks_of_walked {translated : Bool} {nodes : List Node} {entries : List Entry} {r : StyleRef}
    (h : d.Walked nodes s entries s') (hr : .looks r ∈ Markup.usesAll (m.markupAll translated entries)) :
    ∃ slug ∈ s'.styles.keys, r = m.looksOf slug := by
  induction h with
  | done => cases hr
  | leaf first rest ih =>
    rw [Model.markupAll, Markup.looks_mem_usesAll] at hr
    rcases hr with hr | hr
    · obtain ⟨slug, hslug, rfl⟩ := looks_of_leaf first hr
      exact ⟨slug, rest.reaches.grows.styles hslug, rfl⟩
    · exact ih hr
  | @container n _ s s₁ s' below _ goes inside rest ihBelow ih =>
    rw [Model.markupAll, Markup.looks_mem_usesAll, markup_container m translated goes] at hr
    -- A container refers to its own slug, which has a style since it was entered, and to those below it.
    have kept {slug : String} (h : slug ∈ s₁.styles.keys) : slug ∈ s'.styles.keys :=
      rest.reaches.grows.styles h
    have own (hr : m.looksOfNode (modelNode n) = some r) :
        ∃ slug ∈ s'.styles.keys, r = m.looksOf slug := by
      obtain ⟨slug, hslug, rfl⟩ := looks_of_entered (d := d) (s := s) hr
      exact ⟨slug, kept (inside.reaches.grows.styles hslug), rfl⟩
    rcases hr with hr | hr
    · split at hr
      · exact own (Markup.looks_mem_empty.1 hr)
      · rcases Markup.looks_mem_container.1 hr with hr | hr
        · exact own hr
        · obtain ⟨slug, hslug, rfl⟩ := ihBelow hr
          exact ⟨slug, kept hslug, rfl⟩
    · exact ih hr

end Document

/-! ## What a module defines -/

namespace Model

variable {m : Model} {slug : String}

/-- Every slug that has a style is a name in the sheet. -/
theorem mem_names_sheet (h : slug ∈ m.styles.keys) : slug ∈ m.sheet.map Prod.fst := by
  obtain ⟨e, he, rfl⟩ := List.mem_map.1 h
  exact List.mem_map_of_mem (mem_sheet_of_style he)

/-- Every variant that changes the style of a slug has its name in the sheet. -/
theorem className_mem_names_sheet {modifiers : Modifiers} {v : String × StyleMap}
    (h : slug ∈ m.styles.keys) (hm : m.variants.get? slug = some modifiers)
    (hv : v ∈ modifiers.effective) : VariantKey.className slug v.1 ∈ m.sheet.map Prod.fst := by
  obtain ⟨e, he, rfl⟩ := List.mem_map.1 h
  exact List.mem_map_of_mem (f := Prod.fst) (mem_sheet_of_effective he hm hv)

/-- A slug has a variant that changes its style if and only if it has modifiers with a conditional
class. -/
theorem hasVariantStyles_eq_true_iff :
    m.hasVariantStyles slug = true ↔
      ∃ modifiers, m.variants.get? slug = some modifiers ∧ modifiers.conditional ≠ [] := by
  unfold hasVariantStyles
  split
  · next modifiers found =>
    simp only [found, Option.some.injEq, exists_eq_left']
    simp [Modifiers.conditional, Modifiers.effective, OrderedMap.values]
  · next found => simp [found]

end Model

namespace ComponentModule

variable {d : Document} {settings : Settings} {descriptor : Descriptor} {log : List LogRecord}
  {model : Model} {written : ComponentModule} {slug : String}

private theorem needsClasses_of_hasVariantStyles (extracted : d.extract descriptor = (log, .ok model))
    (h : model.hasVariantStyles slug = true) : needsClasses descriptor model = true := by
  obtain ⟨modifiers, found, -⟩ := Model.hasVariantStyles_eq_true_iff.1 h
  obtain ⟨-, -, -, variants⟩ := Document.styles_extract extracted
  have entry := OrderedMap.mem_of_get? found
  cases variant : descriptor.isVariant with
  | false =>
    rw [variants, variant] at entry
    cases entry
  | true =>
    have some : model.variants.entries ≠ [] := List.ne_nil_of_mem entry
    simpa [needsClasses, variant, OrderedMap.isEmpty] using some

/-- A style whose name is in the sheet of the model is defined. -/
private theorem defines_style (emitted : ofModel settings descriptor model = .ok written) {name : String}
    (h : name ∈ model.sheet.map Prod.fst) : written.Defines settings (.style name) :=
  ⟨written.sheet, hasSheet settings written, sheet_of_ofModel emitted ▸ h⟩

/-- The looks of a slug that has a style are defined. -/
theorem defines_looksOf (extracted : d.extract descriptor = (log, .ok model))
    (emitted : ofModel settings descriptor model = .ok written) (h : slug ∈ model.styles.keys) :
    written.Defines settings (model.looksOf slug) := by
  unfold Model.looksOf
  split
  · next varied =>
    have classes := classes_eq emitted
    rw [needsClasses_of_hasVariantStyles extracted varied, if_pos rfl] at classes
    obtain ⟨modifiers, found, conditional⟩ := Model.hasVariantStyles_eq_true_iff.1 varied
    have listed : ⟨slug, modifiers.conditional⟩ ∈ written.classes.getD [] := by
      rw [classes]
      refine List.mem_filter.2 ⟨List.mem_map.2 ⟨_, OrderedMap.mem_of_get? found, rfl⟩, ?_⟩
      simpa using conditional
    have some : ((written.classes.getD []).find? (·.slug == slug)).isSome = true :=
      List.find?_isSome.2 ⟨_, listed, beq_self_eq_true slug⟩
    rw [Defines, classLines?_eq]
    obtain ⟨c, hc⟩ := Option.isSome_iff_exists.1 some
    exact ⟨_, by rw [hc, Option.map_some]⟩
  · exact defines_style emitted (Model.mem_names_sheet h)

/-- The styles in a class list are defined. -/
theorem defines_of_mem_classes (extracted : d.extract descriptor = (log, .ok model))
    (emitted : ofModel settings descriptor model = .ok written) {c : ClassList}
    (hc : c ∈ written.classes.getD []) {r : StyleRef} (hr : .looks r ∈ c.uses) : written.Defines settings r := by
  obtain ⟨variant, e, he, rfl, conditional⟩ := exists_modifiers_of_mem_classes emitted hc
  obtain ⟨-, -, -, variants⟩ := Document.styles_extract extracted
  rw [variant, if_pos rfl] at variants
  have found := OrderedMap.get?_of_mem he
  -- Patches are recorded for slugs of the base only, so each of them has a style.
  have recorded {v : String × StyleMap} (hv : v ∈ e.2.effective) : e.1 ∈ model.styles.keys := by
    have hit : (recorded? model.variants e.1 v.1).isSome = true := by
      rw [recorded?, found]
      exact Option.isSome_iff_exists.2 ⟨v.2, OrderedMap.get?_of_mem (List.mem_of_mem_filter hv)⟩
    rw [variants] at hit
    exact Document.mem_keys_of_recorded hit
  rcases ClassList.looks_mem.1 hr with rfl | ⟨k, hk, rfl⟩
  · have some : e.2.effective ≠ [] := by simpa [Modifiers.conditional] using conditional
    obtain ⟨v, hv⟩ := List.exists_mem_of_ne_nil _ some
    exact defines_style emitted (Model.mem_names_sheet (recorded hv))
  · obtain ⟨v, hv, rfl⟩ := List.mem_map.1 hk
    have effective := List.mem_reverse.1 hv
    exact defines_style emitted (Model.className_mem_names_sheet (recorded effective) found effective)

/-- Every reference to looks in the text of a module resolves: a style is an entry of the style sheet that is
written, and a class list is written in the object of class lists, which there is then. The walk below the shown
node is one that comes to an end, as every walk in a tree does; otherwise there is no model. -/
theorem looks_defined (ends : d.WalkEnds model.root.id)
    (extracted : d.extract descriptor = (log, .ok model))
    (emitted : ofModel settings descriptor model = .ok written) :
    written.Spells settings (written.text settings) ∧
      ∀ r, .looks r ∈ Piece.names (written.pieces settings) → written.Defines settings r := by
  obtain ⟨root, s, -, holds, walked⟩ := Document.walked_of_extract extracted ends
  have rootStyled : rootSlug ∈ model.styles.keys := by
    rw [holds.styles]
    exact walked.reaches.grows.styles (OrderedMap.mem_keys_insert.2 (.inl rfl))
  have defined {slug : String} (h : slug ∈ model.styles.keys) := defines_looksOf extracted emitted h
  have inClasses {c : ClassList} (hc : c ∈ written.classes.getD []) {r : StyleRef} (hr : .looks r ∈ c.uses) :=
    defines_of_mem_classes extracted emitted hc hr
  refine ⟨spells_text settings written, fun r hr => ?_⟩
  rw [names_pieces, looks_mem] at hr
  obtain ⟨_, -, rfl⟩ := exists_of_ofModel emitted
  rcases hr with ⟨c, hc, hr⟩ | rfl | hr
  · exact inClasses hc hr
  · exact defined rootStyled
  · obtain ⟨slug, hslug, rfl⟩ := Document.looks_of_walked walked hr
    exact defined (holds.styles ▸ hslug)

end ComponentModule

/-! ## Chips with labels -/

namespace Document

/-- A set of chips with labels in boxes: the second chip rounds its box and drops the label. -/
def labelledChips : Document :=
  filed
    [{ id := "k", name := "Chips", kind := .componentSet, children := ["m", "n"] },
      { id := "m", name := "Chip", kind := .component, children := ["f"]
        variantProperties := .ofList [("State", "Default")] },
      { id := "f", name := "Box", kind := .frame, children := ["t"] },
      { id := "t", name := "Label", kind := .text },
      { id := "n", name := "Chip", kind := .component, children := ["g"]
        variantProperties := .ofList [("State", "Hover")] },
      { id := "g", name := "Box", kind := .frame, cornerRadius := .one }]

/-- The module of the labelled chips uses styles in the class list of the box and in its elements, and the class list
in the element of the box; it defines all of these looks. -/
theorem looks_defined_labelledChips :
    ∃ descriptor log model written, labelledChips.describe "k" none = .ok descriptor ∧
      labelledChips.WalkEnds model.root.id ∧ labelledChips.extract descriptor = (log, .ok model) ∧
      ComponentModule.ofModel {} descriptor model = .ok written ∧
      Piece.names (written.pieces {}) =
        [.looks (.style "box"), .prop "state", .looks (.style "boxStateHover"),
          .tag (.primitive .view), .looks (.style "root"), .tag (.primitive .view), .looks (.classes "box"),
          .tag (.primitive .text), .looks (.style "label")] ∧
      ∀ r, .looks r ∈ Piece.names (written.pieces {}) → written.Defines {} r := by
  have tree : labelledChips.TreeShaped :=
    treeShaped_of_rank (by decide +kernel) (by decide +kernel)
      (["t", "f", "g", "m", "n", "k"].idxOf ·) (by decide +kernel)
  have names : (labelledChips.module? {} "k" none).map (fun w => Piece.names (w.2.pieces {})) =
      some [.looks (.style "box"), .prop "state", .looks (.style "boxStateHover"),
        .tag (.primitive .view), .looks (.style "root"), .tag (.primitive .view), .looks (.classes "box"),
        .tag (.primitive .text), .looks (.style "label")] := by
    decide +kernel
  obtain ⟨⟨descriptor, written⟩, found, names⟩ := Option.map_eq_some_iff.1 names
  obtain ⟨described, log, model, extracted, emitted⟩ := module?_eq_some_iff.1 found
  have ends := tree.walkEnds model.root.id
  obtain ⟨-, defined⟩ := ComponentModule.looks_defined ends extracted emitted
  exact ⟨descriptor, log, model, written, described, ends, extracted, emitted, names, defined⟩

end Document
end Handoff
