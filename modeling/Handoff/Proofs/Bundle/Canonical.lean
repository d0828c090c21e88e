import Handoff.Proofs.Bundle.Code

/-!
# One target, one bundle

A variant set, its members and all instances of these have one target, and asking for any of them compiles
that target: to the same error, or to bundles that differ at most in the usage line. The usage line can
differ, for the selected member is looked for among the children of the id that is asked for, although it is
described against the target: so it counts only where the target itself is asked for.
-/

namespace Handoff

/-- A bundle without its usage line. -/
def Bundle.withoutPreview (b : Bundle) : Bundle := { b with preview := "" }

/-- Whether two descriptors describe the same bundle but for the usage line. -/
structure Descriptor.SameBundle (a b : Descriptor) : Prop extends a.SameModule b where
  page : a.page = b.page
  path : a.path = b.path

/-- The usage line shows the name and the properties. -/
theorem Descriptor.usage_congr {a b : Descriptor} (s : Settings) (name : a.name = b.name)
    (properties : a.properties = b.properties) : a.usage s = b.usage s := by
  rw [usage, usage, shownProperties, shownProperties, name, properties]

namespace Document

variable {d : Document} {id other target : NodeId} {t : Node}

/-! ## Descriptors -/

/-- What a described component compiles to, with the log of the walk. -/
def compileDescribed (s : Settings) (d : Document) (descriptor : Descriptor) :
    List LogRecord × Except CompileError Bundle :=
  match d.extract descriptor with
  | (log, .error e) => (log, .error e)
  | (log, .ok m) => (log, (ComponentModule.ofModel s descriptor m).map (d.bundleOf s descriptor m))

/-- What a node compiles to while some member is selected, or none is. -/
def compileShowing (s : Settings) (d : Document) (id : NodeId) (selected : Option NodeId) :
    List LogRecord × Except CompileError Bundle :=
  match d.describe id selected with
  | .error e => ([], .error e)
  | .ok descriptor => d.compileDescribed s descriptor

/-- A node is compiled while the last selected one of its children is. -/
theorem compile_eq_compileShowing (s : Settings) (d : Document) (id : NodeId) :
    d.compile s id = d.compileShowing s id (d.selectedChild? id) := by
  unfold compile compileShowing
  cases d.describe id (d.selectedChild? id) <;> rfl

section

variable {a b : Descriptor} (same : a.SameBundle b) (s : Settings)
include same

/-- Descriptors of the same bundle compile alike but for the usage line. -/
theorem compileDescribed_withoutPreview :
    (d.compileDescribed s a).1 = (d.compileDescribed s b).1 ∧
      (d.compileDescribed s a).2.map Bundle.withoutPreview =
        (d.compileDescribed s b).2.map Bundle.withoutPreview := by
  have bundles (m : Model) (written : ComponentModule) :
      (d.bundleOf s a m written).withoutPreview = (d.bundleOf s b m written).withoutPreview := by
    simp only [bundleOf, Bundle.withoutPreview, same.id, same.name, same.page, same.path]
  unfold compileDescribed
  rw [same.extract_eq d]
  split
  · exact ⟨rfl, rfl⟩
  · next m _ =>
    rw [same.ofModel_eq s m]
    cases ComponentModule.ofModel s b m with
    | error e => exact ⟨rfl, rfl⟩
    | ok written => exact ⟨rfl, congrArg Except.ok (bundles m written)⟩

/-- Descriptors of the same bundle with one usage line compile alike. -/
theorem compileDescribed_congr (usage : a.usage s = b.usage s) :
    d.compileDescribed s a = d.compileDescribed s b := by
  have bundles (m : Model) : d.bundleOf s a m = d.bundleOf s b m := by
    funext written
    simp only [bundleOf, same.id, same.name, same.page, same.path, usage]
  simp only [compileDescribed, same.extract_eq d, same.ofModel_eq s, bundles]

end

/-! ## Targets -/

/-- Whether a node is found under its own id and is its own target. -/
structure IsTarget (d : Document) (target : NodeId) : Prop where
  own : d.compileTarget? target = some target
  found : ∃ t, d.node? target = some t ∧ t.id = target

/-- Where every node is found under its own id, what is compiled for a node is its own target. -/
theorem isTarget_of_keyed (keyed : d.Keyed) (h : d.compileTarget? id = some target) :
    d.IsTarget target := by
  obtain ⟨t, ht, -⟩ := standsAlone_of_compileTarget? keyed h
  exact ⟨compileTarget?_of_compileTarget? keyed h, t, ht, keyed _ _ ht⟩

/-- The properties of a described target, whose defaults follow the selected member. -/
def shownProperties (d : Document) (t : Node) (selected : Option NodeId) :
    OrderedMap PropertyDefinition :=
  overrideDefaults t.propertyDefinitions (d.selectedValues t selected)

/-- Nodes of one target are described alike: both fail in the same way, or both are described as the same
bundle, each with the defaults of the member that is selected. -/
private theorem describe_alike (h : d.compileTarget? id = some target)
    (h' : d.compileTarget? other = some target) (ht : d.node? target = some t)
    (selected selected' : Option NodeId) :
    (∃ e, d.describe id selected = .error e ∧ d.describe other selected' = .error e) ∨
      ∃ a b, d.describe id selected = .ok a ∧ d.describe other selected' = .ok b ∧ a.SameBundle b ∧
        a.properties = d.shownProperties t selected ∧ b.properties = d.shownProperties t selected' := by
  have exists_node {id : NodeId} (h : d.compileTarget? id = some target) : ∃ n, d.node? id = some n := by
    cases hn : d.node? id with
    | none =>
      rw [compileTarget?_of_not_found hn] at h
      cases h
    | some n => exact ⟨n, rfl⟩
  obtain ⟨n, hn⟩ := exists_node h
  obtain ⟨n', hn'⟩ := exists_node h'
  obtain ⟨f, entries, keeps⟩ :=
    entries_overrideDefaults t.propertyDefinitions (d.selectedValues t selected)
  obtain ⟨f', entries', keeps'⟩ :=
    entries_overrideDefaults t.propertyDefinitions (d.selectedValues t selected')
  simp only [describe, hn, hn', h, h', ht]
  cases d.shownNode t with
  | error e => exact .inl ⟨e, rfl, rfl⟩
  | ok root =>
    refine .inr ⟨_, _, rfl, rfl, ?_, rfl, rfl⟩
    exact
      { id := rfl
        name := rfl
        isVariant := rfl
        rootNode := rfl
        interface := (InterfaceMember.map_ofDefinition_declared entries keeps).trans
          (InterfaceMember.map_ofDefinition_declared entries' keeps').symm
        documentation := rfl
        page := rfl
        path := rfl }

section

variable (h : d.compileTarget? id = some target) (h' : d.compileTarget? other = some target)
  (ht : d.node? target = some t) (s : Settings)
include h h' ht

/-- Nodes of one target compile alike but for the usage line, whatever is selected. -/
theorem compileShowing_withoutPreview (selected selected' : Option NodeId) :
    (d.compileShowing s id selected).1 = (d.compileShowing s other selected').1 ∧
      (d.compileShowing s id selected).2.map Bundle.withoutPreview =
        (d.compileShowing s other selected').2.map Bundle.withoutPreview := by
  unfold compileShowing
  rcases describe_alike h h' ht selected selected' with
    ⟨e, first, second⟩ | ⟨a, b, first, second, same, -, -⟩
  · rw [first, second]
    exact ⟨rfl, rfl⟩
  · rw [first, second]
    exact compileDescribed_withoutPreview same s

/-- Nodes of one target compile alike if the same defaults are shown. -/
theorem compileShowing_congr {selected selected' : Option NodeId}
    (shown : d.shownProperties t selected = d.shownProperties t selected') :
    d.compileShowing s id selected = d.compileShowing s other selected' := by
  unfold compileShowing
  rcases describe_alike h h' ht selected selected' with
    ⟨e, first, second⟩ | ⟨a, b, first, second, same, properties, properties'⟩
  · rw [first, second]
  · rw [first, second]
    refine compileDescribed_congr same s (Descriptor.usage_congr s same.name ?_)
    rw [properties, shown, properties']

end

/-- A selected child of another node than a target is no member of the target. -/
theorem selectedValues_of_ne (ht : d.node? target = some t) (hid : t.id = target) (ne : id ≠ target) :
    d.selectedValues t (d.selectedChild? id) = [] := by
  unfold selectedValues
  cases hs : d.selectedChild? id with
  | none => rfl
  | some member =>
    rw [Option.bind_some]
    cases hp : d.place? member with
    | none => rfl
    | some p =>
      have inside := List.find?_some hs
      refine if_neg fun listed => ?_
      have parent : d.parent? member = some t := by
        rw [parent?, hp, Option.bind_some, listed, Option.bind_some, hid, ht]
      rw [parent] at inside
      exact ne ((eq_of_beq inside).symm.trans hid)

/-- A node and its target, in any document. Where every node is found under its own id, as in a document
that was read, a target is its own target. If a target is its own and is found under its own id, then any
node that has this target compiles as the target does while nothing is selected, unless it is the target;
both compile with the same log, and to the same error or to bundles that differ at most in the usage line;
and they compile alike if the selected member of the target leaves the declared defaults as they are. -/
theorem compile_of_compileTarget? (h : d.compileTarget? id = some target) (s : Settings) :
    (d.Keyed → d.IsTarget target) ∧
    (d.IsTarget target →
      (id ≠ target → d.compile s id = d.compileShowing s target none) ∧
      (d.compile s id).1 = (d.compile s target).1 ∧
      (d.compile s id).2.map Bundle.withoutPreview = (d.compile s target).2.map Bundle.withoutPreview ∧
      (∀ t, d.node? target = some t →
        d.shownProperties t (d.selectedChild? target) = t.propertyDefinitions →
        d.compile s id = d.compile s target)) := by
  refine ⟨fun keyed => isTarget_of_keyed keyed h, fun ⟨own, t, ht, hid⟩ => ?_⟩
  have unselected (ne : id ≠ target) :
      d.shownProperties t (d.selectedChild? id) = t.propertyDefinitions := by
    rw [shownProperties, selectedValues_of_ne ht hid ne]
    rfl
  simp only [compile_eq_compileShowing]
  obtain ⟨log, result⟩ := compileShowing_withoutPreview h own ht s (d.selectedChild? id)
    (d.selectedChild? target)
  refine ⟨fun ne => compileShowing_congr h own ht s (unselected ne), log, result, fun t' ht' shown => ?_⟩
  obtain rfl : t' = t := Option.some.inj (ht'.symm.trans ht)
  by_cases same : id = target
  · rw [same]
  · exact compileShowing_congr h own ht s ((unselected same).trans shown.symm)

/-! ## A set with a selected member -/

/-- A toggle of some state. -/
def toggle (id : NodeId) (state : String) : Node :=
  { id, name := "Toggle", kind := .component, variantProperties := .ofList [("State", state)] }

/-- A set of two toggles that declares the state of the first one as default; the second is selected. -/
def selectedToggle : Document :=
  { filed
      [{ id := "k", name := "Toggle", kind := .componentSet, children := ["m", "n"]
         propertyDefinitions := .ofList [("State", ⟨.variant, .text "Off", ["Off", "On"]⟩)] },
        toggle "m" "Off", toggle "n" "On"] with
    selection := ["n"] }

/-- Asked for through the selected toggle, the set compiles as if nothing were selected. -/
theorem compile_selectedToggle :
    selectedToggle.compileTarget? "n" = some "k" ∧ selectedToggle.IsTarget "k" ∧
      selectedToggle.compile {} "n" = selectedToggle.compileShowing {} "k" none ∧
      (selectedToggle.compile {} "n").2.map Bundle.withoutPreview =
        (selectedToggle.compile {} "k").2.map Bundle.withoutPreview := by
  have target : selectedToggle.compileTarget? "n" = some "k" := by decide +kernel
  obtain ⟨ofKeyed, alike⟩ := compile_of_compileTarget? target {}
  have isTarget : selectedToggle.IsTarget "k" := ofKeyed (keyed_filed _)
  obtain ⟨unselected, -, result, -⟩ := alike isTarget
  exact ⟨target, isTarget, unselected (by decide), result⟩

/-- A component that was overwritten in place by one with the id of a frame. -/
def overwrittenCard : Document :=
  { name := ""
    placements :=
      [⟨{ id := "y", name := "Card", kind := .component }, some "x", none⟩,
        ⟨{ id := "y", name := "Frame", kind := .frame }, some "y", none⟩] }

/-- A compiled bundle shows the usage of a component with a single property. -/
private theorem preview_of_describe {descriptor : Descriptor} {e : String × PropertyDefinition}
    (described : d.describe id (d.selectedChild? id) = .ok descriptor)
    (shown : descriptor.properties.entries.filter (·.2.kind ≠ .instanceSwap) = [e])
    {s : Settings} {b : Bundle} (h : (d.compile s id).2 = .ok b) :
    b.preview = "<" ++ descriptor.name ++
      (" " ++ Text.propertyIdentifier e.1 ++ "=" ++ e.2.usageText s) ++ "/>" := by
  have usage : b.preview = descriptor.usage s := by
    rw [compile_eq_compileShowing] at h
    simp only [compileShowing, described, compileDescribed] at h
    split at h
    · cases h
    · next m _ =>
      cases hw : ComponentModule.ofModel s descriptor m with
      | error e =>
        rw [hw] at h
        cases h
      | ok written =>
        rw [hw] at h
        cases h
        rfl
  rw [usage, Descriptor.usage, Descriptor.shownProperties, shown, PropertyOrder.sortBy,
    List.mergeSort_singleton]
  rfl

/-- What the set of toggles shows when it is asked for through some node. -/
private theorem preview_selectedToggle (id : NodeId) (state : String)
    (described : ((selectedToggle.describe id (selectedToggle.selectedChild? id)).toOption.map fun a =>
      (a.name, a.properties.entries.filter (·.2.kind ≠ .instanceSwap))) =
        some ("Toggle", [("State", ⟨.variant, .text state, ["Off", "On"]⟩)]))
    (emits : (selectedToggle.compile {} id).2.toOption.isSome = true) :
    (selectedToggle.compile {} id).2.toOption.map Bundle.preview =
      some ("<" ++ "Toggle" ++ (" " ++ Text.propertyIdentifier "State" ++ "=" ++
        PropertyDefinition.usageText {} ⟨.variant, .text state, ["Off", "On"]⟩) ++ "/>") := by
  cases hd : selectedToggle.describe id (selectedToggle.selectedChild? id) with
  | error e =>
    rw [hd] at described
    cases described
  | ok descriptor =>
    rw [hd] at described
    obtain ⟨hname, shown⟩ := Prod.mk.inj (Option.some.inj described)
    cases hc : (selectedToggle.compile {} id).2 with
    | error e =>
      rw [hc] at emits
      cases emits
    | ok b =>
      have preview := preview_of_describe hd shown hc
      rw [hname] at preview
      exact congrArg some preview

/-- A member need not compile as its set: the set shows the selected toggle, and that toggle does not. Nor
need a target be its own: the overwritten card compiles the frame, which is no component. -/
theorem member_misses_selection :
    (selectedToggle.compileTarget? "n" = some "k" ∧
      (selectedToggle.compile {} "k").2.toOption.map Bundle.preview = some "<Toggle state='On'/>" ∧
      (selectedToggle.compile {} "n").2.toOption.map Bundle.preview = some "<Toggle state='Off'/>") ∧
    overwrittenCard.compileTarget? "x" = some "y" ∧
      (overwrittenCard.compile {} "x").2.toOption.isSome = true ∧
      (overwrittenCard.compile {} "y").2 = .error (.notAComponent "y" "Frame") := by
  refine ⟨⟨by decide +kernel, ?_, ?_⟩, by decide +kernel, by decide +kernel, by decide +kernel⟩
  · exact (preview_selectedToggle "k" "On" (by decide +kernel) (by decide +kernel)).trans
      (by decide +kernel)
  · exact (preview_selectedToggle "n" "Off" (by decide +kernel) (by decide +kernel)).trans
      (by decide +kernel)

end Document
end Handoff
