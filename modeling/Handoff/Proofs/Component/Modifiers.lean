import Handoff.Module.Component
import Handoff.Proofs.Component.Variants

/-!
# The modifiers of a slug

The modifiers of a slug are the patches that the members of a set need for it, in the order in which the
members are declared. Members of one key share an entry, which stands where the first of them stands and
holds the patch of the last of them. Since a patch that says nothing is not recorded, every entry is
effective.
-/

namespace Handoff

namespace Document

variable {d : Document} {base : OrderedMap StyleMap} {variants : OrderedMap Modifiers}
  {descriptor : Descriptor} {slug key : String}

/-- The patches that members need for a slug, with their keys. -/
def patchesOf (d : Document) (base : OrderedMap StyleMap) (members : List Node) (slug : String) :
    List (String × StyleMap) :=
  members.filterMap fun m => (d.memberPatch? base m slug).map (m.variantKey, ·)

/-- The keys of the patches come in the order of the members. -/
theorem sublist_patchesOf (members : List Node) :
    ((d.patchesOf base members slug).map Prod.fst).Sublist (members.map (·.variantKey)) := by
  induction members with
  | nil => exact List.Sublist.slnil
  | cons m rest ih =>
    rw [patchesOf, List.filterMap_cons, List.map_cons]
    cases d.memberPatch? base m slug with
    | none => exact ih.cons _
    | some patch => exact ih.cons_cons _

private theorem modifiersOf_foldl_addMember (members : List Node) :
    modifiersOf (members.foldl (d.addMember base) variants) slug =
      (modifiersOf variants slug).insertAll (d.patchesOf base members slug) := by
  induction members generalizing variants with
  | nil => rfl
  | cons m rest ih =>
    rw [List.foldl_cons, ih, modifiersOf_addMember, patchesOf, patchesOf, List.filterMap_cons]
    cases d.memberPatch? base m slug <;> rfl

/-- The modifiers of a slug are the patches that the other members need for it, in declared order. -/
theorem modifiersOf_variantStyles :
    modifiersOf (d.variantStyles descriptor base) slug =
      .ofList (d.patchesOf base (d.otherMembers descriptor) slug) :=
  modifiersOf_foldl_addMember _

/-- A patch that a member needs says something. -/
theorem isEmpty_of_mem_patchesOf {members : List Node} {e : String × StyleMap}
    (h : e ∈ d.patchesOf base members slug) : e.2.isEmpty = false := by
  obtain ⟨m, -, keyed⟩ := List.mem_filterMap.1 h
  obtain ⟨patch, needs, rfl⟩ := Option.map_eq_some_iff.1 keyed
  obtain ⟨style, -, bound⟩ := Option.bind_eq_some_iff.1 needs
  obtain ⟨own, -, effective⟩ := Option.bind_eq_some_iff.1 bound
  unfold effectivePatch? at effective
  split at effective
  · cases effective
  · next nonempty =>
    cases effective
    simpa using nonempty

/-- All modifiers of a slug are effective. -/
theorem effective_variantStyles :
    (modifiersOf (d.variantStyles descriptor base) slug).effective =
      (modifiersOf (d.variantStyles descriptor base) slug).entries := by
  rw [Modifiers.effective, List.filter_eq_self, modifiersOf_variantStyles]
  intro e he
  simp [isEmpty_of_mem_patchesOf (OrderedMap.mem_entries_ofList he)]

/-- The keys of the modifiers of a slug are those of the other members that need a patch for it. -/
theorem mem_keys_modifiersOf :
    key ∈ (modifiersOf (d.variantStyles descriptor base) slug).keys ↔
      ∃ m ∈ d.otherMembers descriptor, (d.memberPatch? base m slug).isSome = true ∧
        m.variantKey = key := by
  rw [modifiersOf_variantStyles, OrderedMap.mem_keys_ofList, patchesOf]
  simp only [List.mem_map, List.mem_filterMap, Option.map_eq_some_iff, Option.isSome_iff_exists]
  constructor
  · rintro ⟨_, ⟨m, hm, patch, needs, rfl⟩, rfl⟩
    exact ⟨m, hm, ⟨patch, needs⟩, rfl⟩
  · rintro ⟨m, hm, ⟨patch, needs⟩, rfl⟩
    exact ⟨_, ⟨m, hm, patch, needs, rfl⟩, rfl⟩

end Document
end Handoff
