import Handoff.Proofs.Component.Variants
import Handoff.Proofs.Module.Blocks
import Handoff.Proofs.Ordered.Attempts
import Handoff.Proofs.Variant.Key

/-!
# Class lists show every variant

A class list holds the style of a slug and the patches of the variants under their conditions. With the
properties set to the values of a member, no condition but the member's own holds, so what is shown is the
style of the slug with the patch of the member: the member's own style. The shown member itself has no
patch and keeps the style of the slug.
-/

namespace Handoff

/-! ## What a class list shows -/

/-- Whether the condition of a class holds for values of the properties. -/
def ConditionalClass.holds (values : String → Option String) (c : ConditionalClass) : Bool :=
  c.assignments.all fun a => values (Text.propertyIdentifier a.1) == some a.2

/-- The values that a member has for the properties, by their identifiers. -/
def Node.valueOf (m : Node) (identifier : String) : Option String :=
  (m.variantProperties.entries.find? fun e => Text.propertyIdentifier e.1 == identifier).map Prod.snd

/-- The style that classes show for a slug: the style of the slug, and over it in order the patches that are
recorded for the classes whose condition holds. -/
def ConditionalClass.shownStyle (classes : List ConditionalClass) (variants : OrderedMap Modifiers) (slug : String)
    (values : String → Option String) (style : StyleMap) : StyleMap :=
  classes.foldl
    (fun style c =>
      if c.holds values then style.apply ((recorded? variants slug c.variantKey).getD .empty) else style)
    style

/-- The conditional classes of modifiers, the last declared first. -/
def Modifiers.conditional (modifiers : Modifiers) : List ConditionalClass :=
  modifiers.effective.reverse.map fun e => ⟨VariantKey.parse e.1, e.1⟩

namespace Model

variable {m : Model} {e : String × StyleMap}

/-- The sheet has an entry for every slug that has a style. -/
theorem mem_sheet_of_style (h : e ∈ m.styles.entries) : e ∈ m.sheet :=
  List.mem_flatMap.2 ⟨e, h, List.mem_cons_self⟩

/-- The sheet has an entry for every variant that changes the style of a slug. -/
theorem mem_sheet_of_effective {modifiers : Modifiers} {v : String × StyleMap} (h : e ∈ m.styles.entries)
    (hm : m.variants.get? e.1 = some modifiers) (hv : v ∈ modifiers.effective) :
    (VariantKey.className e.1 v.1, v.2) ∈ m.sheet := by
  refine List.mem_flatMap.2 ⟨e, h, ?_⟩
  rw [hm]
  exact List.mem_cons_of_mem _ (List.mem_map_of_mem hv)

end Model

namespace ComponentModule

variable {s : Settings} {descriptor : Descriptor} {model : Model} {written : ComponentModule}
  {slug : String}

/-- The conditional classes of a slug; there are none if it has no class list. -/
def classesOfSlug (m : ComponentModule) (slug : String) : List ConditionalClass :=
  (((m.classes.getD []).find? (·.slug == slug)).map (·.conditional)).getD []

/-- Whether the classes of a slug are written: the list under the slug has the style of the slug and then those of
the classes in order, each under the condition that the properties have the values that it assigns; or no list is
written for the slug, and there are no classes. -/
def Lists (s : Settings) (m : ComponentModule) (slug : String) (classes : List ConditionalClass) : Prop :=
  m.classLines? s slug = some (.line ("styles." ++ slug ++ ",") :: classes.map fun c =>
      .line (" && ".intercalate (c.assignments.map fun (property, value) =>
          "props." ++ Text.propertyIdentifier property ++ " === " ++ s.quoted value)
        ++ " && " ++ ("styles." ++ VariantKey.className slug c.variantKey) ++ ",")) ∨
    m.classLines? s slug = none ∧ classes = []

/-- The conditional classes of a slug are written as its class list. -/
theorem lists_classesOfSlug (s : Settings) (m : ComponentModule) (slug : String) :
    m.Lists s slug (m.classesOfSlug slug) := by
  unfold Lists classesOfSlug
  rw [classLines?_eq]
  cases found : (m.classes.getD []).find? (·.slug == slug) with
  | none => exact .inr ⟨rfl, rfl⟩
  | some c =>
    obtain rfl : c.slug = slug := by simpa using List.find?_some found
    exact .inl rfl

private theorem eq_map_of_mapM {α β ε : Type} {f : α → Except ε β} {g : α → β}
    (h : ∀ a b, f a = .ok b → b = g a) {l : List α} {bs : List β} (ok : l.mapM f = .ok bs) :
    bs = l.map g := by
  have each := mapM_eq_ok_iff.1 ok
  clear ok
  induction each with
  | nil => rfl
  | cons own _ ih => rw [List.map_cons, ← h _ _ own, ← ih]

private theorem ofModifiers_eq {e : String × Modifiers} {c : ClassList}
    (h : ClassList.ofModifiers e = .ok c) : c = ⟨e.1, e.2.conditional⟩ := by
  have classOf (key : String) (c : ConditionalClass) (h : ConditionalClass.ofKey key = .ok c) :
      c = ⟨VariantKey.parse key, key⟩ := by
    unfold ConditionalClass.ofKey at h
    split at h
    · cases h
    · cases h
      rfl
  unfold ClassList.ofModifiers at h
  cases hc : (e.2.effective.reverse.map Prod.fst).mapM ConditionalClass.ofKey with
  | error err =>
    rw [hc] at h
    cases h
  | ok conditional =>
    rw [hc] at h
    cases h
    rw [eq_map_of_mapM classOf hc, List.map_map]
    rfl

/-- Class lists without conditional classes can be left out. -/
private theorem find?_classLists (l : List (String × Modifiers)) (distinct : (l.map Prod.fst).Nodup) :
    ((((l.map fun e => (⟨e.1, e.2.conditional⟩ : ClassList)).filter
        (!·.conditional.isEmpty)).find? (·.slug == slug)).map (·.conditional)).getD [] =
      ((l.lookup slug).map Modifiers.conditional).getD [] := by
  induction l with
  | nil => rfl
  | cons e rest ih =>
    rw [List.map_cons, List.nodup_cons] at distinct
    rw [List.map_cons, List.filter_cons, List.lookup_cons]
    by_cases he : slug = e.1
    · subst he
      rw [beq_self_eq_true]
      split
      · simp
      · next hempty =>
        -- The slug comes once, so no later list is found in place of the one that is left out.
        have later : rest.lookup e.1 = none := OrderedMap.lookup_eq_none distinct.1
        have empty : e.2.conditional = [] := by simpa using hempty
        rw [ih distinct.2, later, Option.map_some, empty]
        rfl
    · have hb : (slug == e.1) = false := by simpa using he
      have hb' : (e.1 == slug) = false := by simpa using Ne.symm he
      rw [hb, ← ih distinct.2]
      split
      · rw [List.find?_cons, hb']
      · rfl

/-- The class lists of a module that needs any: those of all slugs with modifiers, without the lists that
have no conditional class. -/
theorem classes_eq (h : ofModel s descriptor model = .ok written) :
    written.classes =
      if needsClasses descriptor model then
        some ((model.variants.entries.map fun e => (⟨e.1, e.2.conditional⟩ : ClassList)).filter
          (!·.conditional.isEmpty))
      else none := by
  obtain ⟨classes, hc, rfl⟩ := exists_of_ofModel h
  unfold classesOf at hc
  split at hc
  · next needed =>
    rw [if_pos needed]
    cases hl : model.classLists with
    | error e =>
      rw [hl] at hc
      cases hc
    | ok lists =>
      rw [hl] at hc
      cases hc
      unfold Model.classLists at hl
      cases hm : model.variants.entries.mapM ClassList.ofModifiers with
      | error e =>
        rw [hm] at hl
        cases hl
      | ok all =>
        rw [hm] at hl
        cases hl
        rw [eq_map_of_mapM (fun _ _ => ofModifiers_eq) hm]
  · next needless =>
    cases hc
    rw [if_neg needless]

/-- A class list of a module is that of a slug of a set, with the conditional classes of its modifiers. -/
theorem exists_modifiers_of_mem_classes (h : ofModel s descriptor model = .ok written) {c : ClassList}
    (hc : c ∈ written.classes.getD []) : descriptor.isVariant = true ∧
      ∃ e ∈ model.variants.entries, c = ⟨e.1, e.2.conditional⟩ ∧ e.2.conditional ≠ [] := by
  rw [classes_eq h] at hc
  split at hc
  · next needed =>
    obtain ⟨listed, conditional⟩ := List.mem_filter.1 hc
    obtain ⟨e, he, rfl⟩ := List.mem_map.1 listed
    simp only [needsClasses, Bool.and_eq_true] at needed
    exact ⟨needed.1, e, he, rfl, by simpa using conditional⟩
  · cases hc

/-- The conditional classes of a slug are those of its modifiers. -/
theorem classesOfSlug_eq (h : ofModel s descriptor model = .ok written)
    (variant : descriptor.isVariant = true) :
    written.classesOfSlug slug = ((model.variants.get? slug).map Modifiers.conditional).getD [] := by
  rw [classesOfSlug, classes_eq h]
  split
  · exact find?_classLists model.variants.entries model.variants.nodup
  · next hneeds =>
    have nothing : model.variants.entries = [] := by
      simpa [needsClasses, variant, OrderedMap.isEmpty] using hneeds
    rw [OrderedMap.get?, nothing]
    rfl

private theorem apply_of_unlisted {modifiers : Modifiers} {key : String}
    (h : modifiers.effective.reverse.lookup key = none) (style : StyleMap) :
    style.apply ((modifiers.get? key).getD .empty) = style := by
  cases hp : modifiers.get? key with
  | none => rfl
  | some patch =>
    have empty : patch.isEmpty = true := by
      cases he : patch.isEmpty with
      | true => rfl
      | false =>
        have listed : (key, patch) ∈ modifiers.effective.reverse := by
          simp [Modifiers.effective, OrderedMap.mem_of_get? hp, he]
        have differs := List.lookup_eq_none_iff.1 h (key, patch) listed
        simp at differs
    have none : patch = .empty := OrderedMap.ext (List.isEmpty_iff.1 empty)
    rw [none]
    rfl

/-- If among the conditions of modifiers only that of one key holds, the patch under this key is applied,
if there is one. -/
private theorem foldl_conditional (modifiers : Modifiers) {values : String → Option String} {key : String}
    (only : ∀ k, (modifiers.get? k).isSome = true →
      (ConditionalClass.holds values ⟨VariantKey.parse k, k⟩ = true ↔ key = k)) (style : StyleMap) :
    modifiers.conditional.foldl
        (fun style c =>
          if c.holds values then style.apply ((modifiers.get? c.variantKey).getD .empty) else style)
        style =
      style.apply ((modifiers.get? key).getD .empty) := by
  have distinct : (modifiers.effective.reverse.map Prod.fst).Nodup := by
    rw [List.map_reverse, (List.reverse_perm _).nodup_iff]
    exact modifiers.nodup.sublist (List.filter_sublist.map _)
  rw [Modifiers.conditional, List.foldl_map]
  refine (OrderedMap.observe_foldl id _ key
    (fun _ style => style.apply ((modifiers.get? key).getD .empty)) ?_ distinct style).trans ?_
  · intro style e he
    have found : modifiers.get? e.1 = some e.2 :=
      OrderedMap.get?_of_mem (List.mem_of_mem_filter (List.mem_reverse.1 he))
    have holds := only e.1 (by rw [found]; rfl)
    by_cases hk : key = e.1
    · rw [if_pos hk, id, if_pos (holds.2 hk), hk]
      rfl
    · rw [if_neg hk, id, if_neg fun hc => hk (holds.1 hc)]
      rfl
  · cases hl : modifiers.effective.reverse.lookup key with
    | some patch => rfl
    | none => exact (apply_of_unlisted hl style).symm

/-- If among the recorded conditions only that of one key holds, a module shows the style of the slug with
the patch that is recorded under this key, if there is one. -/
theorem shownStyle_eq (h : ofModel s descriptor model = .ok written)
    (variant : descriptor.isVariant = true) {values : String → Option String} {key : String}
    (only : ∀ k, (recorded? model.variants slug k).isSome = true →
      (ConditionalClass.holds values ⟨VariantKey.parse k, k⟩ = true ↔ key = k)) (style : StyleMap) :
    ConditionalClass.shownStyle (written.classesOfSlug slug) model.variants slug values style =
      style.apply ((recorded? model.variants slug key).getD .empty) := by
  rw [ConditionalClass.shownStyle, classesOfSlug_eq h variant]
  unfold recorded? at only ⊢
  cases hv : model.variants.get? slug with
  | none => rfl
  | some modifiers =>
    rw [hv] at only
    exact foldl_conditional modifiers only style

end ComponentModule

/-! ## Members -/

namespace Document

/-- The members of a variant set. -/
def members (d : Document) (set : NodeId) : List Node :=
  (d.children set).filter (·.kind == .component)

/-- The other members are those with another id than the shown node. -/
theorem mem_otherMembers {d : Document} {descriptor : Descriptor} {m : Node} :
    m ∈ d.otherMembers descriptor ↔ m ∈ d.members descriptor.id ∧ m.id ≠ descriptor.rootNode := by
  simp [otherMembers, members, and_assoc]

/-- Whether the members of a set are told apart by their values: all have values for the same properties,
the keys that these make can be read back, the properties have different identifiers, and no two members
have the same values. -/
structure MembersApart (d : Document) (set : NodeId) : Prop where
  assigned : ∀ m ∈ d.members set, m.variantProperties.isEmpty = false
  common : ∀ m ∈ d.members set, ∀ m' ∈ d.members set,
    ∀ p ∈ m.variantProperties.keys, p ∈ m'.variantProperties.keys
  legible : ∀ m ∈ d.members set, ∀ e ∈ m.variantProperties.entries, VariantKey.Legible e
  identifiers : ∀ m ∈ d.members set,
    ∀ p ∈ m.variantProperties.keys, ∀ q ∈ m.variantProperties.keys,
      Text.propertyIdentifier p = Text.propertyIdentifier q → p = q
  apart : ∀ m ∈ d.members set, ∀ m' ∈ d.members set,
    (∀ p ∈ m.variantProperties.keys, m.variantProperties.get? p = m'.variantProperties.get? p) →
      m = m'

namespace MembersApart

variable {d : Document} {set : NodeId} (h : d.MembersApart set) {m m' : Node}
  (hm : m ∈ d.members set) (hm' : m' ∈ d.members set)
include h hm

/-- The key of a member is read as its values. -/
theorem parse_variantKey : VariantKey.parse m.variantKey = m.variantProperties.entries :=
  Node.parse_variantKey_of_legible (h.assigned m hm) (h.legible m hm)

/-- The value of a member for the identifier of one of its properties is that of the property. -/
theorem valueOf_propertyIdentifier {p v : String} (hv : m.variantProperties.get? p = some v) :
    m.valueOf (Text.propertyIdentifier p) = some v := by
  rw [Node.valueOf]
  cases hf : m.variantProperties.entries.find? fun e =>
      Text.propertyIdentifier e.1 == Text.propertyIdentifier p with
  | none =>
    have differs := List.find?_eq_none.1 hf (p, v) (OrderedMap.mem_of_get? hv)
    simp at differs
  | some e =>
    have value := OrderedMap.get?_of_mem (List.mem_of_find?_eq_some hf)
    have same : Text.propertyIdentifier e.1 = Text.propertyIdentifier p := by
      simpa using List.find?_some hf
    have property := h.identifiers m hm e.1 (OrderedMap.mem_keys_of_get? value) p
      (OrderedMap.mem_keys_of_get? hv) same
    rw [property, hv] at value
    rw [Option.map_some, Option.some.inj value]

include hm'

/-- Members have different keys. -/
theorem eq_of_variantKey (key : m.variantKey = m'.variantKey) : m = m' := by
  have entries : m.variantProperties = m'.variantProperties := by
    apply OrderedMap.ext
    rw [← h.parse_variantKey hm, key, h.parse_variantKey hm']
  exact h.apart m hm m' hm' fun p _ => by rw [entries]

/-- The condition of a member holds for its own values and for those of no other member. -/
theorem holds_iff :
    ConditionalClass.holds m.valueOf ⟨VariantKey.parse m'.variantKey, m'.variantKey⟩ = true ↔
      m = m' := by
  rw [ConditionalClass.holds, h.parse_variantKey hm', List.all_eq_true]
  constructor
  · intro all
    refine h.apart m hm m' hm' fun p hp => ?_
    obtain ⟨v, hv⟩ := OrderedMap.exists_of_mem_keys hp
    obtain ⟨v', hv'⟩ := OrderedMap.exists_of_mem_keys (h.common m hm m' hm' p hp)
    have value := all (p, v') (OrderedMap.mem_of_get? hv')
    rw [h.valueOf_propertyIdentifier hm hv] at value
    rw [hv, hv', eq_of_beq value]
  · rintro rfl e he
    rw [h.valueOf_propertyIdentifier hm (OrderedMap.get?_of_mem he)]
    exact beq_self_eq_true _

end MembersApart

namespace MembersApart

variable {d : Document} {descriptor : Descriptor} (h : d.MembersApart descriptor.id) {m : Node}
  (hm : m ∈ d.members descriptor.id) {base : OrderedMap StyleMap} {slug : String}
include h hm

/-- Of the conditions under which patches are recorded, only the own one holds for the values of a
member. -/
theorem holds_iff_of_recorded {key : String}
    (recorded : (recorded? (d.variantStyles descriptor base) slug key).isSome = true) :
    ConditionalClass.holds m.valueOf ⟨VariantKey.parse key, key⟩ = true ↔ m.variantKey = key := by
  by_cases recorder : ∃ m' ∈ d.otherMembers descriptor, m'.variantKey = key
  · obtain ⟨m', hm', rfl⟩ := recorder
    have mem' := (mem_otherMembers.1 hm').1
    rw [h.holds_iff hm mem']
    exact ⟨fun same => by rw [same], h.eq_of_variantKey hm mem'⟩
  · rw [recorded?_variantStyles_of_not_mem fun m' hm' same => recorder ⟨m', hm', same⟩] at recorded
    cases recorded

/-- For another member than the shown one its patch is recorded, if it says anything. -/
theorem recorded?_of_other (differs : m.id ≠ descriptor.rootNode) {style own : StyleMap}
    (hbase : base.get? slug = some style) (found : (d.subtreeStyles m).get? slug = some own) :
    recorded? (d.variantStyles descriptor base) slug m.variantKey = effectivePatch? style own := by
  rw [recorded?_variantStyles_of_mem (mem_otherMembers.2 ⟨hm, differs⟩)
    fun m' hm' key => h.eq_of_variantKey (mem_otherMembers.1 hm').1 hm key, memberPatch?, hbase, found]
  rfl

/-- For the shown member nothing is recorded. -/
theorem recorded?_of_shown (shown : m.id = descriptor.rootNode) :
    recorded? (d.variantStyles descriptor base) slug m.variantKey = none := by
  apply recorded?_variantStyles_of_not_mem
  intro m' hm' key
  obtain ⟨mem', differs⟩ := mem_otherMembers.1 hm'
  rw [h.eq_of_variantKey mem' hm key] at differs
  exact differs shown

end MembersApart
end Document

namespace ComponentModule

variable {d : Document} {s : Settings} {descriptor : Descriptor} {log : List LogRecord} {model : Model}
  {written : ComponentModule}

/-- A class of a slug has the conditions that its key assigns, and stands for the patch under its key, which says
something and is written under the name of the class. -/
private theorem exists_patch_of_mem_classesOfSlug (emitted : ofModel s descriptor model = .ok written)
    (variant : descriptor.isVariant = true) {slug : String} {style : StyleMap}
    (base : model.styles.get? slug = some style) {c : ConditionalClass} (hc : c ∈ written.classesOfSlug slug) :
    c.assignments = VariantKey.parse c.variantKey ∧ ∃ patch,
      recorded? model.variants slug c.variantKey = some patch ∧ patch.isEmpty = false ∧
        (VariantKey.className slug c.variantKey, patch) ∈ written.sheet := by
  rw [classesOfSlug_eq emitted variant] at hc
  cases found : model.variants.get? slug with
  | none =>
    rw [found] at hc
    cases hc
  | some modifiers =>
    rw [found] at hc
    obtain ⟨v, hv, rfl⟩ := List.mem_map.1 hc
    have effective := List.mem_reverse.1 hv
    obtain ⟨listed, nonempty⟩ := List.mem_filter.1 effective
    refine ⟨rfl, v.2, ?_, by simpa using nonempty, ?_⟩
    · rw [recorded?, found, Option.bind_some, OrderedMap.get?_of_mem listed]
    · rw [sheet_of_ofModel emitted]
      exact Model.mem_sheet_of_effective (OrderedMap.mem_of_get? base) found effective

/-- The class lists of a variant set show every member. Let the members of the set be told apart by their
values, and let extraction and writing of the module succeed. For a member and a slug that has a style both
in the base and in the subtree of the member, take the classes that are written for the slug; each stands for a
patch that is recorded under the key whose assignments are its condition. What these classes show when every
property has the member's value says the same as the member's own style. For the member whose id is that of the
shown node it is the style in the base, which is this member's own style if it is the node found under the id. -/
theorem shownStyle_of_member (apart : d.MembersApart descriptor.id)
    (variant : descriptor.isVariant = true) (extracted : d.extract descriptor = (log, .ok model))
    (emitted : ofModel s descriptor model = .ok written) {m : Node} (mem : m ∈ d.members descriptor.id)
    {slug : String} {style own : StyleMap} (base : model.styles.get? slug = some style)
    (found : (d.subtreeStyles m).get? slug = some own) :
    written.Spells s (written.text s) ∧
      ∃ entries classes, written.HasSheet s entries ∧ written.Lists s slug classes ∧ (slug, style) ∈ entries ∧
        (∀ c ∈ classes, c.assignments = VariantKey.parse c.variantKey ∧ ∃ patch,
          recorded? model.variants slug c.variantKey = some patch ∧ patch.isEmpty = false ∧
            (VariantKey.className slug c.variantKey, patch) ∈ entries) ∧
        let shown := ConditionalClass.shownStyle classes model.variants slug m.valueOf style
        (m.id ≠ descriptor.rootNode → shown.Agrees own) ∧
          (m.id = descriptor.rootNode → shown = style) ∧
          (d.node? descriptor.rootNode = some m → style = own) := by
  have listed : (slug, style) ∈ written.sheet := by
    rw [sheet_of_ofModel emitted]
    exact Model.mem_sheet_of_style (OrderedMap.mem_of_get? base)
  refine ⟨spells_text s written, written.sheet, written.classesOfSlug slug, hasSheet s written,
    lists_classesOfSlug s written slug, listed,
    fun c hc => exists_patch_of_mem_classesOfSlug emitted variant base hc, ?_⟩
  intro shown
  obtain ⟨root, hroot, hstyles, hvariants⟩ := Document.styles_extract extracted
  rw [variant, if_pos rfl] at hvariants
  have applied : shown = style.apply ((recorded? model.variants slug m.variantKey).getD .empty) :=
    shownStyle_eq emitted variant
      (fun key recorded => apart.holds_iff_of_recorded mem (hvariants ▸ recorded)) style
  rw [hvariants] at applied
  refine ⟨fun differs => ?_, fun isRoot => ?_, fun isRoot => ?_⟩
  · rw [applied, apart.recorded?_of_other mem differs base found, Document.getD_effectivePatch?]
    apply StyleMap.apply_patch_agrees
    obtain ⟨n, rfl⟩ := Document.exists_of_subtreeStyles found
    exact Style.get?_resolve_ne_unset d n
  · rw [applied, apart.recorded?_of_shown mem isRoot]
    rfl
  · cases hroot.symm.trans isRoot
    rw [hstyles, found] at base
    exact (Option.some.inj base).symm

end ComponentModule

/-! ## A set of chips -/

namespace Document

/-- A member of a set of chips. -/
def chip (id : NodeId) (values : List (String × String)) (opacity radius : Binary64) : Node :=
  { id, name := "Chip", kind := .component, children := [], opacity, cornerRadius := radius
    variantProperties := .ofList values }

/-- The chip that is shown. -/
def plainChip : Node := chip "m" [("State", "Default"), ("Size", "Small")] .zero .zero

/-- A chip with its properties in another order, and with an equals sign in a value. -/
def roundChip : Node := chip "n" [("Size", "Small"), ("State", "Hover=On")] .one .one

/-- A set of chips. -/
def chips : Document :=
  let set : Node := { id := "k", name := "Chips", kind := .componentSet, children := ["m", "n", "o"] }
  { name := ""
    placements :=
      [⟨set, some "k", none⟩, ⟨plainChip, some "m", some "k"⟩, ⟨roundChip, some "n", some "k"⟩,
        ⟨chip "o" [("State", "Hover=On"), ("Size", "Large")] .zero .one, some "o", some "k"⟩] }

/-- The description of the set of chips. -/
def chipsDescriptor : Descriptor where
  id := "k"
  name := "Chips"
  page := ""
  pageSection := none
  path := "components/common/base/chips"
  isVariant := true
  isInstance := false
  rootNode := "m"
  properties := .empty
  description := ""
  documentationLinks := []

/-- The module of the set shows the round chip, which looks otherwise than the chip that the set shows. -/
theorem shownStyle_roundChip :
    chips.describe "k" none = .ok chipsDescriptor ∧
      ∃ log model written style own classes, chips.extract chipsDescriptor = (log, .ok model) ∧
        ComponentModule.ofModel {} chipsDescriptor model = .ok written ∧
        model.styles.get? rootSlug = some style ∧
        (chips.subtreeStyles roundChip).get? rootSlug = some own ∧ style ≠ own ∧
        written.Lists {} rootSlug classes ∧
        (ConditionalClass.shownStyle classes model.variants rootSlug roundChip.valueOf style).Agrees own := by
  have described : chips.describe "k" none = .ok chipsDescriptor := by decide +kernel
  have apart : chips.MembersApart "k" := by constructor <;> decide +kernel
  have extracts : ((chips.extract chipsDescriptor).2.toOption.map fun model =>
      ((ComponentModule.ofModel {} chipsDescriptor model).toOption.isSome, model.styles.get? rootSlug)) =
        some (true, some (Style.resolve chips plainChip)) := by decide +kernel
  have found : (chips.subtreeStyles roundChip).get? rootSlug = some (Style.resolve chips roundChip) := by
    decide +kernel
  refine ⟨described, ?_⟩
  cases hx : chips.extract chipsDescriptor with
  | mk log result =>
    rw [hx] at extracts
    cases result with
    | error e => cases extracts
    | ok model =>
      obtain ⟨writes, base⟩ := Prod.mk.inj (Option.some.inj extracts)
      cases hw : ComponentModule.ofModel {} chipsDescriptor model with
      | error e =>
        rw [hw] at writes
        cases writes
      | ok written =>
        obtain ⟨-, _, classes, -, lists, -, -, shows, -⟩ :=
          ComponentModule.shownStyle_of_member apart rfl hx hw (by decide +kernel) base found
        exact ⟨log, model, written, _, _, classes, rfl, hw, base, found, by decide +kernel, lists,
          shows (by decide)⟩

end Document
end Handoff
