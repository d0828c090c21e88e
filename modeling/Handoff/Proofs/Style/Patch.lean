import Handoff.Proofs.Ordered.Map
import Handoff.Style.Resolve

/-!
# Patches lead where they should

Applying the patch from one style map to another to the first map yields a map that says the same as the
second, whatever the order of the properties. This needs that the second map takes no property away, which
holds for the style of every node. A patch has an entry just for each property on which the maps differ, and
whatever else leads from the one to the other has an entry for it too.
-/

namespace Handoff

/-- Whether a value is a number or a word. -/
def StyleValue.isLiteral : StyleValue → Bool
  | number _ | string _ => true
  | theme _ | unset => false

namespace StyleMap

variable {m base variant : StyleMap} {property : String}

/-- Whether two maps give the same properties values that say the same. -/
def Agrees (m n : StyleMap) : Prop :=
  ∀ property, Option.Rel (fun v w => v.same w = true) (m.get? property) (n.get? property)

/-- What an entry of a patch makes of the value of its property. -/
def patched : StyleValue → Option StyleValue
  | .unset => none
  | value => some value

/-- Applying an entry of a patch changes its property only. -/
theorem get?_applyEntry (m : StyleMap) (e : String × StyleValue) (property : String) :
    (m.applyEntry e).get? property = if property = e.1 then patched e.2 else m.get? property := by
  have set (value : StyleValue) : (m.insert e.1 value).get? property =
      if property = e.1 then some value else m.get? property := OrderedMap.get?_insert _ _ _ _
  unfold applyEntry
  split
  · next h =>
    rw [erase, OrderedMap.get?_filterKeys, h]
    by_cases he : property = e.1 <;> simp [he, patched]
  · next h =>
    rw [set]
    split
    · cases hv : e.2 with
      | unset => exact absurd hv h
      | _ => rfl
    · rfl

/-- Applying a patch gives each of its properties what its entry says, and leaves the others. -/
theorem get?_apply (m p : StyleMap) (property : String) :
    (m.apply p).get? property = (p.get? property).elim (m.get? property) patched :=
  OrderedMap.observe_foldl (·.get? property) applyEntry property (fun value _ => patched value)
    (fun m e _ => get?_applyEntry m e property) p.nodup m

/-- The entries of the patch between two maps: what the second sets otherwise than the first, and what
only the first has. -/
theorem mem_entries_patch {value : StyleValue} :
    (property, value) ∈ (patch base variant).entries ↔
      (variant.get? property = some value ∧ base.holds property value = false) ∨
        (variant.get? property = none ∧ base.contains property = true ∧ value = .unset) := by
  have distinct : ((variant.entries.filter (fun e => !base.holds e.1 e.2) ++
      (base.keys.filter (fun k => !variant.contains k)).map (·, StyleValue.unset)).map
        Prod.fst).Nodup := by
    have lost : ((base.keys.filter (fun k => !variant.contains k)).map
        (fun k => (k, StyleValue.unset))).map Prod.fst =
          base.keys.filter (fun k => !variant.contains k) := by
      rw [List.map_map]
      exact List.map_id _
    rw [List.map_append, lost, List.nodup_append]
    refine ⟨variant.nodup.sublist (List.filter_sublist.map _), base.nodup_keys.filter _, ?_⟩
    -- What only the first map has is no key of the second.
    intro a ha b hb same
    obtain ⟨e, he, rfl⟩ := List.mem_map.1 ha
    have mem : b ∈ variant.keys := same ▸ List.mem_map_of_mem (List.mem_filter.1 he).1
    have absent := (List.mem_filter.1 hb).2
    simp [OrderedMap.contains, mem] at absent
  rw [patch, OrderedMap.entries_ofList distinct, List.mem_append, List.mem_filter,
    OrderedMap.mem_entries_iff, OrderedMap.get?_eq_none_iff]
  constructor
  · rintro (⟨found, other⟩ | lost)
    · exact .inl ⟨found, by simpa using other⟩
    · obtain ⟨k, hk, he⟩ := List.mem_map.1 lost
      cases he
      obtain ⟨mem, absent⟩ := List.mem_filter.1 hk
      exact .inr ⟨by simpa using absent, by simpa [OrderedMap.contains] using mem, rfl⟩
  · rintro (⟨found, other⟩ | ⟨absent, present, rfl⟩)
    · exact .inl ⟨found, by simp [other]⟩
    · refine .inr (List.mem_map.2 ⟨property, List.mem_filter.2 ⟨?_, by simp [absent]⟩, rfl⟩)
      simpa [OrderedMap.contains] using present

/-- The patch from a map to another leads to the other, if the other takes no property away. -/
theorem apply_patch_agrees (base : StyleMap) (given : ∀ property, variant.get? property ≠ some .unset) :
    (base.apply (patch base variant)).Agrees variant := by
  intro property
  rw [get?_apply]
  cases hp : (patch base variant).get? property with
  | some value =>
    rw [Option.elim_some]
    rcases mem_entries_patch.1 (OrderedMap.mem_of_get? hp) with ⟨found, -⟩ | ⟨absent, -, rfl⟩
    · have set : patched value = some value := by
        cases value with
        | unset => exact absurd found (given property)
        | _ => rfl
      rw [found, set]
      exact .some value.same_refl
    · rw [absent]
      exact .none
  | none =>
    rw [Option.elim_none]
    have nothing {value : StyleValue} : (property, value) ∉ (patch base variant).entries := by
      intro mem
      rw [OrderedMap.get?_of_mem mem] at hp
      cases hp
    cases hv : variant.get? property with
    | some value =>
      cases known : base.holds property value with
      | false => exact absurd (mem_entries_patch.2 (.inl ⟨hv, known⟩)) nothing
      | true =>
        unfold holds at known
        split at known
        · next v hb =>
          rw [hb]
          exact .some known
        · cases known
    | none =>
      cases present : base.contains property with
      | true => exact absurd (mem_entries_patch.2 (.inr ⟨hv, present, rfl⟩)) nothing
      | false =>
        rw [OrderedMap.get?_eq_none_iff.2 present]
        exact .none

/-- Whether two maps give a property values that say the same, or both give it none. -/
def AgreesAt (m n : StyleMap) (property : String) : Prop :=
  Option.Rel (fun v w => v.same w = true) (m.get? property) (n.get? property)

private theorem holds_iff_agreesAt {value : StyleValue} (found : variant.get? property = some value) :
    base.holds property value = true ↔ AgreesAt base variant property := by
  rw [AgreesAt, found, holds]
  cases base.get? property with
  | some v => rw [Option.rel_some_some]
  | none => simp

/-- A patch names the properties on which the maps differ. -/
theorem mem_keys_patch_iff : property ∈ (patch base variant).keys ↔ ¬ AgreesAt base variant property := by
  have named : property ∈ (patch base variant).keys ↔ ∃ value, (property, value) ∈ (patch base variant).entries := by
    simp [OrderedMap.keys]
  rw [named]
  simp only [mem_entries_patch]
  cases found : variant.get? property with
  | some value => simp [← holds_iff_agreesAt found]
  | none =>
    rw [AgreesAt, found]
    cases has : base.get? property with
    | some v => simp [OrderedMap.contains_eq_isSome, has]
    | none => simp [OrderedMap.contains_eq_isSome, has]

/-- Whatever leads from a map to another names the properties on which they differ. -/
theorem mem_keys_of_apply_agrees {p : StyleMap} (leads : (base.apply p).Agrees variant)
    (differ : ¬ AgreesAt base variant property) : property ∈ p.keys := by
  refine Decidable.byContradiction fun absent => ?_
  have kept : (base.apply p).get? property = base.get? property := by
    have none : p.get? property = none := OrderedMap.get?_eq_none_iff.2 (by simpa [OrderedMap.contains] using absent)
    rw [get?_apply, none, Option.elim_none]
  have agrees := leads property
  rw [kept] at agrees
  exact differ agrees

/-- A patch is empty exactly if the maps say the same. -/
theorem isEmpty_patch_iff : (patch base variant).isEmpty = true ↔ base.Agrees variant := by
  have none : (patch base variant).isEmpty = true ↔ ∀ property, property ∉ (patch base variant).keys := by
    rw [OrderedMap.isEmpty, OrderedMap.keys, List.isEmpty_iff, ← List.eq_nil_iff_forall_not_mem, List.map_eq_nil_iff]
  rw [none]
  simp only [mem_keys_patch_iff, Classical.not_not]
  rfl

/-- The patch from a map to another that takes no property away leads to the other, and has entries just for the
properties on which they differ, so that no patch that leads there has fewer. -/
theorem patch_exact (base : StyleMap) (given : ∀ property, variant.get? property ≠ some .unset) :
    (base.apply (patch base variant)).Agrees variant ∧
      (∀ property, property ∈ (patch base variant).keys ↔ ¬ AgreesAt base variant property) ∧
      (∀ p : StyleMap, (base.apply p).Agrees variant → (patch base variant).keys ⊆ p.keys) ∧
      ((patch base variant).isEmpty = true ↔ base.Agrees variant) :=
  ⟨apply_patch_agrees base given, fun _ => mem_keys_patch_iff,
    fun _ leads _ named => mem_keys_of_apply_agrees leads (mem_keys_patch_iff.1 named), isEmpty_patch_iff⟩

/-- The style of a white box of no width. -/
def whiteBox : StyleMap :=
  .ofList [("opacity", .number .one), ("width", .number .zero), ("color", .string "#fff")]

/-- The style of a black box whose width is a negative zero. -/
def blackBox : StyleMap :=
  .ofList [("color", .string "#000"), ("width", .number { Binary64.zero with negative := true })]

/-- A changed color and a lost opacity make a patch, but another sign of a zero does not. -/
theorem patch_exact_blackBox : (∀ property, blackBox.get? property ≠ some .unset) ∧
    (patch whiteBox blackBox).entries = [("color", .string "#000"), ("opacity", .unset)] ∧
    (whiteBox.apply (patch whiteBox blackBox)).Agrees blackBox ∧ whiteBox.AgreesAt blackBox "width" := by
  have given : ∀ property, blackBox.get? property ≠ some .unset := by
    intro property found
    have named := OrderedMap.mem_of_get? found
    simp [blackBox, OrderedMap.entries_ofList] at named
  have entries : (patch whiteBox blackBox).entries = [("color", .string "#000"), ("opacity", .unset)] := by
    decide +kernel
  obtain ⟨leads, differ, -, -⟩ := patch_exact whiteBox given
  have unnamed : "width" ∉ (patch whiteBox blackBox).keys := by
    rw [OrderedMap.keys, entries]
    decide
  exact ⟨given, entries, leads, Classical.not_not.1 fun other => unnamed ((differ "width").2 other)⟩

end StyleMap

namespace Style

/-- Whether the values of entries are numbers and words. -/
def Literal (l : StyleEntries) : Prop := ∀ e ∈ l, e.2.isLiteral = true

private theorem Literal.append {k l : StyleEntries} (hk : Literal k) (hl : Literal l) :
    Literal (k ++ l) := by
  intro e he
  rcases List.mem_append.1 he with he | he
  · exact hk e he
  · exact hl e he

private theorem literal_nil : Literal [] := fun _ he => by cases he

private theorem literal_padding (l : AutoLayout) : Literal (padding l) := by
  unfold padding
  simp only
  split
  · split <;> simp [Literal, numberEntry, StyleValue.isLiteral]
  · intro e he
    obtain ⟨⟨side, x⟩, -, h⟩ := List.mem_filterMap.1 he
    simp only at h
    split at h
    · cases h
      rfl
    · cases h

private theorem literal_layout (l : AutoLayout) : Literal (layout l) := by
  refine (((Literal.append ?_ ?_).append ?_).append ?_).append (literal_padding l)
  · simp [Literal, wordEntry, StyleValue.isLiteral]
  · cases l.primaryAxisAlign <;> simp [justification, Literal, wordEntry, StyleValue.isLiteral]
  · cases l.counterAxisAlign <;> simp [crossAlignment, Literal, wordEntry, StyleValue.isLiteral]
  · split <;> simp [Literal, numberEntry, StyleValue.isLiteral]

private theorem literal_sizing (n : Node) : Literal (sizing n) := by
  refine Literal.append ?_ ?_
  · cases n.sizing.horizontal <;> simp [Literal, numberEntry, StyleValue.isLiteral]
  · cases n.sizing.vertical <;> simp [Literal, numberEntry, wordEntry, StyleValue.isLiteral]

private theorem literal_shape (n : Node) : Literal (shape n) := by
  refine Literal.append ?_ ?_ <;> split <;> simp [Literal, numberEntry, StyleValue.isLiteral]

private theorem literal_typography (t : TextStyle) : Literal (typography t) := by
  refine ((((Literal.append ?_ ?_).append ?_).append ?_).append ?_).append ?_
  · cases t.fontFamily <;> simp [Literal, wordEntry, StyleValue.isLiteral]
  · cases t.fontSize <;> simp [Literal, numberEntry, StyleValue.isLiteral]
  · cases t.fontWeight <;> simp [Literal, wordEntry, StyleValue.isLiteral]
  · cases t.lineHeight <;> simp [Literal, numberEntry, StyleValue.isLiteral]
  · split <;> simp [Literal, numberEntry, StyleValue.isLiteral]
  · cases t.textAlign <;> simp [Literal, lineAlignment, wordEntry, StyleValue.isLiteral]

private theorem literal_textEntries (n : Node) : Literal (textEntries n) := by
  unfold textEntries
  split
  · exact literal_typography _
  · exact literal_nil

/-- The values of a node's style are numbers and words, but for the colors of its first visible solid fill
and stroke. -/
theorem value_of_mem_entries {d : Document} {n : Node} {e : String × StyleValue}
    (h : e ∈ entries d n) : e.2.isLiteral = true ∨ firstSolid? d n.fills = some e.2 ∨
      firstSolid? d n.strokes = some e.2 := by
  have laidOut : Literal ((n.layout.map layout).getD []) := by
    cases n.layout with
    | none => exact literal_nil
    | some l => exact literal_layout l
  simp only [entries, List.mem_append] at h
  rcases h with ((((h | h) | h) | h) | h) | h
  · exact .inl (laidOut e h)
  · exact .inl (literal_sizing n e h)
  · unfold fill at h
    split at h
    · next color first =>
      rw [List.mem_singleton.1 h]
      exact .inr (.inl first)
    · cases h
  · unfold stroke at h
    split at h
    · next color first =>
      split at h
      · simp only [List.mem_cons, List.not_mem_nil, or_false] at h
        rcases h with rfl | rfl | rfl
        · exact .inl rfl
        · exact .inl rfl
        · exact .inr (.inr first)
      · cases h
    · cases h
  · exact .inl (literal_shape n e h)
  · exact .inl (literal_textEntries n e h)

private theorem firstSolid?_ne_unset {d : Document} {paints : List Paint} {value : StyleValue}
    (h : firstSolid? d paints = some value) : value ≠ .unset := by
  obtain ⟨paint, -, hp⟩ := List.exists_of_findSome?_eq_some h
  split at hp
  · cases hp
    unfold paintColor
    split <;> simp
  · cases hp

/-- The style of a node takes no property away. -/
theorem get?_resolve_ne_unset (d : Document) (n : Node) (property : String) :
    (resolve d n).get? property ≠ some .unset := by
  intro h
  have listed := OrderedMap.mem_entries_ofList (OrderedMap.mem_of_get? h)
  rcases value_of_mem_entries listed with literal | fill | stroke
  · cases literal
  · exact firstSolid?_ne_unset fill rfl
  · exact firstSolid?_ne_unset stroke rfl

end Style
end Handoff
