import Handoff.Proofs.Component.Modifiers
import Handoff.Proofs.Module.Classes
import Handoff.Proofs.Module.Rendering
import Handoff.Proofs.Scene.Tree

/-!
# Which modifier wins

A class list is applied from left to right: of the styles in it that set a property, the last one gives the
value. The list starts with the style of the slug, and the styles of the variants follow from the last
declared to the first. So where several conditions hold, the style of the member that is declared first
overrides those of the members declared after it.
-/

namespace Handoff

/-- The condition under which a member is shown. -/
def Node.condition (m : Node) : ConditionalClass := ⟨VariantKey.parse m.variantKey, m.variantKey⟩

namespace ComponentModule

variable {d : Document} {s : Settings} {descriptor : Descriptor} {log : List LogRecord} {model : Model}
  {written : ComponentModule} {slug property : String} {values : String → Option String}

/-- The style under a name of the sheet. Of entries with one name the last counts. -/
def styleNamed? (m : ComponentModule) (name : String) : Option StyleMap := m.sheet.reverse.lookup name

/-- The names of the styles that the class list of a slug applies for values of the properties, from left to
right. -/
def appliedNames (m : ComponentModule) (slug : String) (values : String → Option String) : List String :=
  slug :: ((m.classesOfSlug slug).filter (·.holds values)).map (VariantKey.className slug ·.variantKey)

/-- The value that a property has where a class list is applied: the last style that sets the property gives
it. -/
def effectiveValue? (m : ComponentModule) (slug : String) (values : String → Option String)
    (property : String) : Option StyleValue :=
  (m.appliedNames slug values).reverse.findSome? fun name => (m.styleNamed? name).bind (·.get? property)

/-- The value is that of the first modifier in declared order whose condition holds and whose style sets the
property, and else that of the slug's style. -/
private theorem effectiveValue?_eq_findSome? (emitted : ofModel s descriptor model = .ok written)
    (variant : descriptor.isVariant = true) :
    written.effectiveValue? slug values property =
      ((modifiersOf model.variants slug).effective.findSome? fun v =>
        if ConditionalClass.holds values ⟨VariantKey.parse v.1, v.1⟩ then
          (written.styleNamed? (VariantKey.className slug v.1)).bind (·.get? property)
        else none).or ((written.styleNamed? slug).bind (·.get? property)) := by
  have classes : written.classesOfSlug slug = (modifiersOf model.variants slug).conditional := by
    rw [classesOfSlug_eq emitted variant, modifiersOf]
    cases model.variants.get? slug <;> rfl
  rw [effectiveValue?, appliedNames, classes, Modifiers.conditional]
  generalize (modifiersOf model.variants slug).effective = effective
  rw [List.reverse_cons, List.findSome?_append, List.map_reverse, List.filter_reverse, List.map_reverse,
    List.reverse_reverse, List.findSome?_map, List.findSome?_singleton]
  congr 1
  induction effective with
  | nil => rfl
  | cons v rest ih =>
    rw [List.map_cons, List.filter_cons, List.findSome?_cons, ← ih]
    split <;> rfl

private theorem styleNamed?_of_mem (distinct : (written.sheet.map Prod.fst).Nodup) {e : String × StyleMap}
    (h : e ∈ written.sheet) : written.styleNamed? e.1 = some e.2 := by
  have reversed : (written.sheet.reverse.map Prod.fst).Nodup := by
    rwa [List.map_reverse, List.nodup_reverse]
  exact OrderedMap.get?_of_mem (m := ⟨written.sheet.reverse, reversed⟩) (List.mem_reverse.2 h)

/-- The sheet of a set has the styles of a slug and of its modifiers, if no two of its entries have one
name. -/
private theorem styleNamed?_eq (emitted : ofModel s descriptor model = .ok written)
    (distinct : (written.sheet.map Prod.fst).Nodup) {style : StyleMap}
    (base : model.styles.get? slug = some style) :
    written.styleNamed? slug = some style ∧
      ∀ v ∈ (modifiersOf model.variants slug).effective,
        written.styleNamed? (VariantKey.className slug v.1) = some v.2 := by
  have listed {e : String × StyleMap} (h : e ∈ (slug, style) ::
      (modifiersOf model.variants slug).effective.map fun v => (VariantKey.className slug v.1, v.2)) :
      written.styleNamed? e.1 = some e.2 := by
    refine styleNamed?_of_mem distinct ?_
    rw [sheet_of_ofModel emitted]
    exact List.mem_flatMap.2 ⟨(slug, style), OrderedMap.mem_of_get? base, h⟩
  exact ⟨listed List.mem_cons_self, fun v hv =>
    listed (e := (VariantKey.className slug v.1, v.2)) (List.mem_cons_of_mem _ (List.mem_map_of_mem hv))⟩

/-- The value that the patch of a member gives a property for a slug, where the condition of the member
holds. -/
def patchValue? (d : Document) (base : OrderedMap StyleMap) (slug : String)
    (values : String → Option String) (property : String) (m : Node) : Option StyleValue :=
  if m.condition.holds values then (d.memberPatch? base m slug).bind (·.get? property) else none

/-- The first patch in the sheet that applies is that of the first member. -/
private theorem findSome?_patchesOf {base : OrderedMap StyleMap} {members : List Node}
    (patches : ∀ v ∈ d.patchesOf base members slug,
      written.styleNamed? (VariantKey.className slug v.1) = some v.2) :
    (d.patchesOf base members slug).findSome? (fun v =>
        if ConditionalClass.holds values ⟨VariantKey.parse v.1, v.1⟩ then
          (written.styleNamed? (VariantKey.className slug v.1)).bind (·.get? property)
        else none) =
      members.findSome? (patchValue? d base slug values property) := by
  rw [← List.head?_filterMap, ← List.head?_filterMap, Document.patchesOf, List.filterMap_filterMap]
  congr 1
  refine List.filterMap_congr fun m hm => ?_
  cases needs : d.memberPatch? base m slug with
  | none => simp [patchValue?, needs]
  | some patch =>
    have named := patches (m.variantKey, patch)
      (List.mem_filterMap.2 ⟨m, hm, by rw [needs, Option.map_some]⟩)
    rw [Option.map_some, Option.bind_some, named, patchValue?, needs, Option.bind_some]
    rfl

/-- Where several modifiers apply, the one that is declared first wins. Let a set be extracted and written, and
take any slug that has a style and any values of the properties. In the text of the module the classes of the slug
stand in its class list, and the styles in the style sheet. The modifiers of the slug are the patches
that the other members need, in declared order. A style property has the value of the first of them whose
condition holds and whose style in the sheet sets the property, and else that of the slug's style. If the
names in the sheet and the keys of the members are distinct, this is the patch of the member that is declared
first among those whose condition holds and whose patch sets the property. -/
theorem effectiveValue?_eq (extracted : d.extract descriptor = (log, .ok model))
    (emitted : ofModel s descriptor model = .ok written) (variant : descriptor.isVariant = true)
    {style : StyleMap} (base : model.styles.get? slug = some style) (values : String → Option String)
    (property : String) :
    written.Spells s (written.text s) ∧ written.HasSheet s written.sheet ∧
      written.Lists s slug (written.classesOfSlug slug) ∧
      written.effectiveValue? slug values property =
        ((OrderedMap.ofList (d.patchesOf model.styles (d.otherMembers descriptor) slug)).entries.findSome?
          fun v => if ConditionalClass.holds values ⟨VariantKey.parse v.1, v.1⟩ then
            (written.styleNamed? (VariantKey.className slug v.1)).bind (·.get? property)
          else none).or ((written.styleNamed? slug).bind (·.get? property)) ∧
      ((written.sheet.map Prod.fst).Nodup → ((d.otherMembers descriptor).map (·.variantKey)).Nodup →
        written.effectiveValue? slug values property =
          ((d.otherMembers descriptor).findSome? (patchValue? d model.styles slug values property)).or
            (style.get? property)) := by
  obtain ⟨-, -, -, variants⟩ := Document.styles_extract extracted
  rw [variant, if_pos rfl] at variants
  have modifiers : (modifiersOf model.variants slug).effective =
      (OrderedMap.ofList (d.patchesOf model.styles (d.otherMembers descriptor) slug)).entries := by
    rw [variants, Document.effective_variantStyles, Document.modifiersOf_variantStyles]
  have value : written.effectiveValue? slug values property = _ :=
    effectiveValue?_eq_findSome? emitted variant
  refine ⟨spells_text s written, hasSheet s written, lists_classesOfSlug s written slug, modifiers ▸ value,
    fun distinct keys => ?_⟩
  obtain ⟨own, patches⟩ := styleNamed?_eq emitted distinct base
  have entries : (modifiersOf model.variants slug).effective =
      d.patchesOf model.styles (d.otherMembers descriptor) slug := by
    rw [modifiers, OrderedMap.entries_ofList (keys.sublist (Document.sublist_patchesOf _))]
  rw [value, own, Option.bind_some]
  rw [entries] at patches ⊢
  rw [findSome?_patchesOf patches]

end ComponentModule

/-! ## Conditions that hold together -/

namespace Document

/-- A member of a set of switches, with one of its properties. -/
def switch (id property value : String) (opacity : Binary64) : Node :=
  { id, name := "Switch", kind := .component, opacity, variantProperties := .ofList [(property, value)] }

/-- A set of switches whose second and third member have values for different properties. -/
def switches : Document :=
  filed
    [{ id := "k", name := "Switch", kind := .componentSet, children := ["m", "n", "o"] },
      switch "m" "State" "Default" .one, switch "n" "State" "Hover" Binary64.one.half,
      switch "o" "Size" "Large" Binary64.one.half.half]

/-- The values of a large switch that is hovered over. -/
def largeHover : String → Option String
  | "state" => some "Hover"
  | "size" => some "Large"
  | _ => none

/-- The second switch. -/
def hoverSwitch : Node := switch "n" "State" "Hover" Binary64.one.half

/-- The third switch. -/
def largeSwitch : Node := switch "o" "Size" "Large" Binary64.one.half.half

/-- The conditions of the second and of the third switch hold for the values of a large switch that is hovered
over, and both patches set the opacity. -/
private theorem compiled_switches :
    ∃ descriptor log model written style, switches.describe "k" none = .ok descriptor ∧
      switches.extract descriptor = (log, .ok model) ∧
      ComponentModule.ofModel {} descriptor model = .ok written ∧ descriptor.isVariant = true ∧
      switches.otherMembers descriptor = [hoverSwitch, largeSwitch] ∧
      model.styles.get? rootSlug = some style ∧ (written.sheet.map Prod.fst).Nodup ∧
      written.effectiveValue? rootSlug largeHover "opacity" = some (.number Binary64.one.half) ∧
      [hoverSwitch, largeSwitch].map
        (ComponentModule.patchValue? switches model.styles rootSlug largeHover "opacity") =
          [some (.number Binary64.one.half), some (.number Binary64.one.half.half)] := by
  have emits : (switches.module? {} "k" none).map (fun p =>
      (p.1.isVariant, switches.otherMembers p.1, p.2.sheet.map Prod.fst,
        p.2.effectiveValue? rootSlug largeHover "opacity")) =
      some (true, [hoverSwitch, largeSwitch], ["root", "rootStateHover", "rootSizeLarge"],
        some (.number Binary64.one.half)) := by
    decide +kernel
  have styles : ((switches.describe "k" none).toOption.bind (switches.extract · |>.2.toOption)).map
      (fun model => ((model.styles.get? rootSlug).isSome, [hoverSwitch, largeSwitch].map
        (ComponentModule.patchValue? switches model.styles rootSlug largeHover "opacity"))) =
      some (true, [some (.number Binary64.one.half), some (.number Binary64.one.half.half)]) := by
    decide +kernel
  obtain ⟨⟨descriptor, written⟩, found, facts⟩ := Option.map_eq_some_iff.1 emits
  obtain ⟨described, log, model, extracted, emitted⟩ := module?_eq_some_iff.1 found
  simp only [Prod.mk.injEq] at facts
  obtain ⟨variant, others, names, value⟩ := facts
  rw [described] at styles
  simp only [Except.toOption, Option.bind_some, extracted, Option.map_some, Option.some.injEq,
    Prod.mk.injEq] at styles
  obtain ⟨style, base⟩ := Option.isSome_iff_exists.1 styles.1
  exact ⟨descriptor, log, model, written, style, described, extracted, emitted, variant, others, base,
    names ▸ by decide, value, styles.2⟩

/-- A large switch that is hovered over has the opacity of the hovered one, which is declared first. -/
theorem effectiveValue?_switches :
    ∃ descriptor log model written style, switches.describe "k" none = .ok descriptor ∧
      switches.extract descriptor = (log, .ok model) ∧
      ComponentModule.ofModel {} descriptor model = .ok written ∧ descriptor.isVariant = true ∧
      model.styles.get? rootSlug = some style ∧ (written.sheet.map Prod.fst).Nodup ∧
      ((switches.otherMembers descriptor).map (·.variantKey)).Nodup ∧
      written.effectiveValue? rootSlug largeHover "opacity" = some (.number Binary64.one.half) := by
  obtain ⟨descriptor, log, model, written, style, described, extracted, emitted, variant, others, base,
    distinct, -, patches⟩ := compiled_switches
  have keys : ((switches.otherMembers descriptor).map (·.variantKey)).Nodup := by
    rw [others]
    decide
  obtain ⟨-, -, -, -, value⟩ :=
    ComponentModule.effectiveValue?_eq extracted emitted variant base largeHover "opacity"
  have value := value distinct keys
  obtain ⟨hover, -⟩ := List.cons_eq_cons.1 patches
  rw [others, List.findSome?_cons, hover] at value
  exact ⟨descriptor, log, model, written, style, described, extracted, emitted, variant, base, distinct,
    keys, value⟩

/-- The member that is declared last among those that apply need not win: the third switch applies and sets
the opacity, but the opacity is another. -/
theorem later_modifier_overridden :
    ¬ ∀ (d : Document) (settings : Settings) (id : NodeId) (selected : Option NodeId)
      (descriptor : Descriptor) (log : List LogRecord) (model : Model) (written : ComponentModule),
      d.describe id selected = .ok descriptor → d.extract descriptor = (log, .ok model) →
      ComponentModule.ofModel settings descriptor model = .ok written → descriptor.isVariant = true →
      ∀ slug style, model.styles.get? slug = some style → ∀ values property,
        written.effectiveValue? slug values property =
          ((d.otherMembers descriptor).reverse.findSome?
            (ComponentModule.patchValue? d model.styles slug values property)).or (style.get? property) := by
  intro latest
  obtain ⟨descriptor, log, model, written, style, described, extracted, emitted, variant, others, base,
    -, value, patches⟩ := compiled_switches
  have last := latest _ _ _ _ _ _ _ _ described extracted emitted variant _ _ base largeHover "opacity"
  obtain ⟨-, patches⟩ := List.cons_eq_cons.1 patches
  obtain ⟨large, -⟩ := List.cons_eq_cons.1 patches
  rw [value, others, List.reverse_cons, List.reverse_singleton, List.singleton_append, List.findSome?_cons,
    large] at last
  exact absurd (Option.some.inj last) (by decide +kernel)

end Document
end Handoff
