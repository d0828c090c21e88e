import Handoff.Proofs.Module.Looks

/-!
# Names in the style sheet

The entries of a style sheet stand for different subjects: the slugs that have a style, and for each of
them the variants that change it. The name of a variant's entry is the slug followed by the characters of
the key that may stand in a class name, without what separates them, so it does not tell where the slug ends
and where a property or a value begins. Exactly when different subjects get different names is stated here.
-/

namespace Handoff

namespace VariantKey

/-- The characters of a key that may stand in a class name. -/
def classChars (key : String) : List Char := key.toList.filter isClassChar

private theorem filter_flatten_splitParts (s : List Char) :
    (splitParts s).flatten.filter isClassChar = s.filter isClassChar := by
  have comma : isClassChar ',' = false := by decide
  have blank : isClassChar ' ' = false := by decide
  fun_induction splitParts s with
  | case1 => rfl
  | case2 rest ih =>
    rw [List.flatten_cons, List.nil_append, ih]
    simp [comma, blank]
  | case3 c rest _ none ih => exact absurd none (splitParts_ne_nil rest)
  | case4 c rest _ part parts cut ih =>
    rw [cut] at ih
    rw [List.flatten_cons, List.cons_append, List.filter_cons, List.filter_cons, ← List.flatten_cons, ih]

/-- The class of a member's style is the slug followed by the class characters of the key. -/
theorem toList_className (slug key : String) :
    (className slug key).toList = slug.toList ++ classChars key := by
  have equals : isClassChar '=' = false := by decide
  rw [className, String.toList_append, String.toList_ofList, List.filter_filter]
  congr 1
  rw [classChars, ← filter_flatten_splitParts]
  apply List.filter_congr
  intro c _
  by_cases hc : c = '='
  · simp [hc, equals]
  · simp [hc]

/-- The class for a large member that is hovered over. -/
example : className "root" "State=Hover, Size=Large" = "rootStateHoverSizeLarge" := by decide +kernel

end VariantKey

namespace Model

variable {m : Model} {slug slug' key key' : String}

/-- The keys of the variants that change the style of a slug, in declared order. -/
def effectiveKeys (m : Model) (slug : String) : List String :=
  ((m.variants.get? slug).getD .empty).effective.map Prod.fst

/-- What the entries of the style sheet stand for, in their order: a slug, or a slug with the key of a
variant that changes its style. -/
def sheetSubjects (m : Model) : List (String × Option String) :=
  m.styles.keys.flatMap fun slug => (slug, none) :: (m.effectiveKeys slug).map (slug, some ·)

/-- The name of the entry for a subject. -/
def entryName : String × Option String → String
  | (slug, none) => slug
  | (slug, some key) => VariantKey.className slug key

/-- The style sheet has one entry for each subject, under its name. -/
theorem map_fst_sheet (m : Model) : m.sheet.map Prod.fst = m.sheetSubjects.map entryName := by
  rw [sheet, sheetSubjects, List.map_flatMap, List.map_flatMap, OrderedMap.keys, List.flatMap_map]
  congr 1
  funext e
  simp [effectiveKeys, entryName]

theorem mem_sheetSubjects {key? : Option String} :
    (slug, key?) ∈ m.sheetSubjects ↔
      slug ∈ m.styles.keys ∧ ∀ key, key? = some key → key ∈ m.effectiveKeys slug := by
  simp only [sheetSubjects, List.mem_flatMap, List.mem_cons, List.mem_map, Prod.mk.injEq]
  constructor
  · rintro ⟨_, hs, ⟨rfl, rfl⟩ | ⟨k, hk, rfl, rfl⟩⟩
    · exact ⟨hs, fun _ h => by cases h⟩
    · exact ⟨hs, fun _ h => by cases h; exact hk⟩
  · rintro ⟨hs, hk⟩
    refine ⟨slug, hs, ?_⟩
    cases key? with
    | none => exact .inl ⟨rfl, rfl⟩
    | some key => exact .inr ⟨key, hk key rfl, rfl, rfl⟩

/-- No two variants that change the style of a slug have the same key. -/
theorem nodup_effectiveKeys (m : Model) (slug : String) : (m.effectiveKeys slug).Nodup :=
  ((m.variants.get? slug).getD .empty).nodup.sublist (List.filter_sublist.map _)

/-- The entries of the style sheet stand for different subjects. -/
theorem nodup_sheetSubjects (m : Model) : m.sheetSubjects.Nodup := by
  refine List.nodup_flatMap.2 ⟨fun slug _ => ?_, ?_⟩
  · refine List.nodup_cons.2 ⟨by simp, (m.nodup_effectiveKeys slug).map ?_⟩
    intro a b h
    simpa using h
  · refine m.styles.nodup.imp fun {a b} differs => ?_
    intro e ha hb
    have first {slug : String} (h : e ∈ (slug, none) :: (m.effectiveKeys slug).map (slug, some ·)) :
        e.1 = slug := by
      rcases List.mem_cons.1 h with rfl | h
      · rfl
      · obtain ⟨_, -, rfl⟩ := List.mem_map.1 h
        rfl
    exact differs ((first ha).symm.trans (first hb))

/-- Whether the keys that are recorded tell the subjects of the style sheet apart. -/
structure NamesApart (m : Model) : Prop where
  /-- Every key has class characters. -/
  spelled : ∀ slug ∈ m.styles.keys, ∀ key ∈ m.effectiveKeys slug, VariantKey.classChars key ≠ []
  /-- Different keys of one slug have different class characters. -/
  distinct : ∀ slug ∈ m.styles.keys, ∀ key ∈ m.effectiveKeys slug, ∀ key' ∈ m.effectiveKeys slug,
    VariantKey.classChars key = VariantKey.classChars key' → key = key'
  /-- If one slug continues another, no key of the shorter slug has the class characters of the
  continuation, alone or followed by those of a key of the longer slug. -/
  beyond : ∀ slug ∈ m.styles.keys, ∀ slug' ∈ m.styles.keys, ∀ rest, rest ≠ [] →
    slug'.toList = slug.toList ++ rest → ∀ key ∈ m.effectiveKeys slug,
      VariantKey.classChars key ≠ rest ∧
        ∀ key' ∈ m.effectiveKeys slug', VariantKey.classChars key ≠ rest ++ VariantKey.classChars key'

/-- What follows the slug in the name of an entry. -/
def subjectChars (key? : Option String) : List Char := (key?.map VariantKey.classChars).getD []

theorem toList_entryName (e : String × Option String) :
    (entryName e).toList = e.1.toList ++ subjectChars e.2 := by
  obtain ⟨slug, _ | key⟩ := e
  · exact (List.append_nil _).symm
  · exact VariantKey.toList_className slug key

/-- Where keys tell subjects apart, two subjects are the same if one slug continues the other and what
follows the shorter slug makes up for that. -/
private theorem NamesApart.eq (apart : m.NamesApart) {e e' : String × Option String}
    (he : e ∈ m.sheetSubjects) (he' : e' ∈ m.sheetSubjects) {rest : List Char}
    (longer : e'.1.toList = e.1.toList ++ rest)
    (same : subjectChars e.2 = rest ++ subjectChars e'.2) : e = e' := by
  obtain ⟨slug, key?⟩ := e
  obtain ⟨slug', key?'⟩ := e'
  obtain ⟨hs, hk⟩ := mem_sheetSubjects.1 he
  obtain ⟨hs', hk'⟩ := mem_sheetSubjects.1 he'
  simp only at longer same
  -- Without a continuation the slugs are one, and the keys decide; with one, the shorter slug needs a key.
  cases rest with
  | nil =>
    obtain rfl : slug' = slug := String.toList_inj.1 (by rw [longer, List.append_nil])
    cases key? with
    | none =>
      cases key?' with
      | none => rfl
      | some key' => exact absurd same.symm (apart.spelled _ hs' key' (hk' key' rfl))
    | some key =>
      cases key?' with
      | none => exact absurd same (apart.spelled _ hs key (hk key rfl))
      | some key' => rw [apart.distinct _ hs key (hk key rfl) key' (hk' key' rfl) same]
  | cons c cs =>
    cases key? with
    | none => cases same
    | some key =>
      have beyond := apart.beyond slug hs slug' hs' _ (List.cons_ne_nil c cs) longer key (hk key rfl)
      cases key?' with
      | none =>
        rw [subjectChars, subjectChars, Option.map_none, Option.getD_none, List.append_nil] at same
        exact absurd same beyond.1
      | some key' => exact absurd same (beyond.2 key' (hk' key' rfl))

/-- The names in the style sheet are pairwise distinct if and only if the recorded keys tell its subjects
apart. -/
theorem nodup_sheet_iff (m : Model) : (m.sheet.map Prod.fst).Nodup ↔ m.NamesApart := by
  rw [map_fst_sheet, List.nodup_map_iff_inj_on m.nodup_sheetSubjects]
  have base {slug : String} (hs : slug ∈ m.styles.keys) : (slug, none) ∈ m.sheetSubjects :=
    mem_sheetSubjects.2 ⟨hs, fun _ h => by cases h⟩
  have varied {slug key : String} (hs : slug ∈ m.styles.keys) (hk : key ∈ m.effectiveKeys slug) :
      (slug, some key) ∈ m.sheetSubjects :=
    mem_sheetSubjects.2 ⟨hs, fun _ h => by cases h; exact hk⟩
  constructor
  · intro injective
    have same {e e' : String × Option String} (he : e ∈ m.sheetSubjects) (he' : e' ∈ m.sheetSubjects)
        (h : e.1.toList ++ subjectChars e.2 = e'.1.toList ++ subjectChars e'.2) : e = e' := by
      apply injective e he e' he' (String.toList_inj.1 _)
      rw [toList_entryName, toList_entryName, h]
    constructor
    · intro slug hs key hk none
      cases same (varied hs hk) (base hs) (congrArg (slug.toList ++ ·) none)
    · intro slug hs key hk key' hk' chars
      cases same (varied hs hk) (varied hs hk') (congrArg (slug.toList ++ ·) chars)
      rfl
    · intro slug hs slug' hs' rest some longer key hk
      refine ⟨fun chars => ?_, fun key' hk' chars => ?_⟩
      · cases same (varied hs hk) (base hs') (by simp [subjectChars, longer, chars])
      · cases same (varied hs hk) (varied hs' hk') (by simp [subjectChars, longer, chars])
        exact some (by simpa using longer)
  · intro apart e he e' he' name
    have chars := congrArg String.toList name
    rw [toList_entryName, toList_entryName] at chars
    -- Of two slugs that begin equal names, one continues the other.
    rcases List.append_eq_append_iff.1 chars with ⟨rest, longer, same⟩ | ⟨rest, longer, same⟩
    · exact apart.eq he he' longer same
    · exact (apart.eq he' he longer same).symm

/-- The keys that are recorded for a model are keys of members other than the shown one. -/
theorem exists_member_of_effectiveKeys {d : Document} {descriptor : Descriptor} {log : List LogRecord}
    (extracted : d.extract descriptor = (log, .ok m)) (h : key ∈ m.effectiveKeys slug) :
    ∃ member ∈ d.otherMembers descriptor, member.variantKey = key := by
  obtain ⟨v, hv, rfl⟩ := List.mem_map.1 h
  obtain ⟨root, -, -, variants⟩ := Document.styles_extract extracted
  have recorded : recorded? m.variants slug v.1 ≠ none := by
    cases found : m.variants.get? slug with
    | none =>
      rw [found] at hv
      cases hv
    | some modifiers =>
      rw [found, Option.getD_some] at hv
      rw [recorded?, found, Option.bind_some, OrderedMap.get?_of_mem (List.mem_of_mem_filter hv)]
      exact Option.some_ne_none _
  split at variants
  · by_contra none
    simp only [not_exists, not_and] at none
    rw [variants, Document.recorded?_variantStyles_of_not_mem none] at recorded
    exact recorded rfl
  · rw [variants] at recorded
    exact absurd rfl recorded

end Model

namespace ComponentModule

variable {d : Document} {settings : Settings} {descriptor : Descriptor} {log : List LogRecord}
  {model : Model} {written : ComponentModule}

/-- The entries of the style sheet are written in its block in the text of the module. They stand for different
subjects, a slug or a slug with the key of another member than the shown one, and are named after them. The names
are pairwise distinct if and only if every recorded key has class characters, keys of one slug differ in them, and
where a slug continues another they do not make up for the continuation. -/
theorem names_nodup_iff (extracted : d.extract descriptor = (log, .ok model))
    (emitted : ofModel settings descriptor model = .ok written) :
    written.Spells settings (written.text settings) ∧ written.HasSheet settings written.sheet ∧
      written.sheet.map Prod.fst = model.sheetSubjects.map Model.entryName ∧
      model.sheetSubjects.Nodup ∧
      (∀ slug key, (slug, some key) ∈ model.sheetSubjects →
        ∃ member ∈ d.otherMembers descriptor, member.variantKey = key) ∧
      ((written.sheet.map Prod.fst).Nodup ↔ model.NamesApart) := by
  refine ⟨spells_text settings written, hasSheet settings written, ?_⟩
  rw [sheet_of_ofModel emitted]
  refine ⟨model.map_fst_sheet, model.nodup_sheetSubjects, fun slug key h => ?_, model.nodup_sheet_iff⟩
  exact Model.exists_member_of_effectiveKeys extracted ((Model.mem_sheetSubjects.1 h).2 key rfl)

end ComponentModule

namespace Document

/-- The keys of the labelled chips tell the entries of their style sheet apart. -/
theorem names_labelledChips :
    ∃ descriptor log model written, labelledChips.describe "k" none = .ok descriptor ∧
      labelledChips.extract descriptor = (log, .ok model) ∧
      ComponentModule.ofModel {} descriptor model = .ok written ∧
      written.sheet.map Prod.fst = ["root", "box", "boxStateHover", "label"] ∧ model.NamesApart := by
  have names : (labelledChips.module? {} "k" none).map (·.2.sheet.map Prod.fst) =
      some ["root", "box", "boxStateHover", "label"] := by decide +kernel
  obtain ⟨⟨descriptor, written⟩, found, names⟩ := Option.map_eq_some_iff.1 names
  obtain ⟨described, log, model, extracted, emitted⟩ := module?_eq_some_iff.1 found
  obtain ⟨-, -, -, -, -, apart⟩ := ComponentModule.names_nodup_iff extracted emitted
  exact ⟨descriptor, log, model, written, described, extracted, emitted, names,
    apart.1 (by rw [names]; decide)⟩

/-- A set of chips: the first chip holds a box whose slug is spelled like the root slug followed by the
key of the second chip. -/
def clashingChips : Document :=
  filed
    [{ id := "k", name := "Chips", kind := .componentSet, children := ["m", "n"] },
      { id := "m", name := "Chip", kind := .component, children := ["f"]
        variantProperties := .ofList [("State", "Default")] },
      { id := "f", name := "Root State Hover", kind := .frame, cornerRadius := .one },
      { id := "n", name := "Chip", kind := .component, opacity := .zero
        variantProperties := .ofList [("State", "Hover")] }]

/-- Names in a style sheet need not be distinct: the second of the clashing chips and the box in the first
have entries of one name. -/
theorem names_not_nodup :
    ¬ ∀ (d : Document) (settings : Settings) (id : NodeId) (selected : Option NodeId)
      (descriptor : Descriptor) (log : List LogRecord) (model : Model) (written : ComponentModule),
      d.describe id selected = .ok descriptor → d.extract descriptor = (log, .ok model) →
      ComponentModule.ofModel settings descriptor model = .ok written →
      (written.sheet.map Prod.fst).Nodup := by
  intro distinct
  have names : (clashingChips.module? {} "k" none).map (·.2.sheet.map Prod.fst) =
      some ["root", "rootStateHover", "rootStateHover"] := by decide +kernel
  obtain ⟨⟨descriptor, written⟩, found, names⟩ := Option.map_eq_some_iff.1 names
  obtain ⟨described, log, model, extracted, emitted⟩ := module?_eq_some_iff.1 found
  have clash := distinct _ _ _ _ _ _ _ _ described extracted emitted
  rw [names] at clash
  exact absurd clash (by decide)

end Document
end Handoff
