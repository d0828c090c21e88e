import Handoff.Scene.Node

/-!
# Variant keys read back

The key of a list of assignments is read as these assignments, as long as no property and no value holds
the separator and no property holds an equals sign. Values may hold equals signs, and a comma at the end
of a value does not matter. Whatever is read from a key is like this, so no other assignments are read back.
-/

namespace Handoff
namespace VariantKey

/-- Whether a text does not hold the separator of keys. -/
def Unseparated (s : List Char) : Prop := ¬ [',', ' '] <:+: s

instance (s : List Char) : Decidable (Unseparated s) :=
  inferInstanceAs (Decidable (¬ [',', ' '] <:+: s))

/-- Whether an assignment can be read back from a key. -/
structure Legible (pair : String × String) : Prop where
  property : Unseparated pair.1.toList
  noEquals : '=' ∉ pair.1.toList
  value : Unseparated pair.2.toList

instance (pair : String × String) : Decidable (Legible pair) :=
  decidable_of_iff
    (Unseparated pair.1.toList ∧ '=' ∉ pair.1.toList ∧ Unseparated pair.2.toList)
    ⟨fun h => ⟨h.1, h.2.1, h.2.2⟩, fun h => ⟨h.property, h.noEquals, h.value⟩⟩

/-- A text without the separator goes on without it. -/
theorem Unseparated.tail {c : Char} {s : List Char} (h : Unseparated (c :: s)) : Unseparated s :=
  fun inside => h (inside.trans (List.suffix_cons c s).isInfix)

/-- A text without the separator is one part of the key that it starts, up to the separator. -/
theorem splitParts_append {part : List Char} (h : Unseparated part) (rest : List Char) :
    splitParts (part ++ ',' :: ' ' :: rest) = part :: splitParts rest := by
  induction part with
  | nil => rw [List.nil_append, splitParts]
  | cons c part ih =>
    have plain : ∀ r, c = ',' → part ++ ',' :: ' ' :: rest = ' ' :: r → False := by
      intro r hc hr
      cases part with
      | nil => cases hr
      | cons next others =>
        cases hr
        exact h ⟨[], others, by rw [hc]; rfl⟩
    rw [List.cons_append, splitParts.eq_3 _ _ plain, ih h.tail]

/-- A text without the separator is one part. -/
theorem splitParts_of_unseparated {part : List Char} (h : Unseparated part) :
    splitParts part = [part] := by
  induction part with
  | nil => rw [splitParts]
  | cons c part ih =>
    have plain : ∀ r, c = ',' → part = ' ' :: r → False := by
      rintro r rfl rfl
      exact h ⟨[], r, rfl⟩
    rw [splitParts.eq_3 _ _ plain, ih h.tail]

/-- An assignment is cut at its equals sign if there is none in the property. -/
theorem splitPair?_append {property : List Char} (h : '=' ∉ property) (value : List Char) :
    splitPair? (property ++ '=' :: value) = some (property, value) := by
  induction property with
  | nil => rfl
  | cons c property ih =>
    rw [List.mem_cons, not_or] at h
    rw [List.cons_append, splitPair?, if_neg (Ne.symm h.1), ih h.2]
    rfl

namespace Legible

variable {pair : String × String}

private theorem toList_assignment :
    (assignment pair).toList = pair.1.toList ++ '=' :: pair.2.toList := by
  rw [assignment, String.toList_append, String.toList_append, List.append_assoc]
  rfl

/-- The text of an assignment does not hold the separator. -/
theorem unseparated (h : Legible pair) : Unseparated (assignment pair).toList := by
  rw [toList_assignment]
  intro inside
  rcases List.infix_append_iff.1 inside with inside | inside | ⟨l₁, l₂, he, ends, starts⟩
  · exact h.property inside
  · rcases List.infix_cons_iff.1 inside with starts | inside
    · exact absurd (List.cons_prefix_cons.1 starts).1 (by decide)
    · exact h.value inside
  · -- The separator would have to hold the equals sign, or to end before it.
    cases l₂ with
    | nil =>
      rw [List.append_nil] at he
      exact h.property (he ▸ ends.isInfix)
    | cons c l₂ =>
      have sign : c = '=' := (List.cons_prefix_cons.1 starts).1
      have mem : '=' ∈ [',', ' '] := by
        rw [he, sign]
        exact List.mem_append_right _ List.mem_cons_self
      exact absurd mem (by decide)

/-- The text of an assignment is cut into the assignment. -/
theorem splitPair? (h : Legible pair) :
    VariantKey.splitPair? (assignment pair).toList = some (pair.1.toList, pair.2.toList) := by
  rw [toList_assignment, splitPair?_append h.noEquals]

end Legible

/-- The parts of the key of a list of assignments are their texts. -/
theorem splitParts_ofAssignments {pairs : List (String × String)} (ne : pairs ≠ [])
    (h : ∀ pair ∈ pairs, Legible pair) :
    splitParts (ofAssignments pairs).toList = pairs.map fun pair => (assignment pair).toList := by
  induction pairs with
  | nil => exact absurd rfl ne
  | cons pair rest ih =>
    have first := (h pair List.mem_cons_self).unseparated
    cases rest with
    | nil => exact splitParts_of_unseparated first
    | cons next others =>
      have following := ih (List.cons_ne_nil _ _) fun p hp => h p (List.mem_cons_of_mem _ hp)
      have joined : (ofAssignments (pair :: next :: others)).toList =
          (assignment pair).toList ++ ',' :: ' ' :: (ofAssignments (next :: others)).toList := by
        simp [ofAssignments]
      rw [joined, splitParts_append first, following]
      rfl

/-- The key of a list of assignments is read as these assignments. -/
theorem parse_ofAssignments {pairs : List (String × String)} (ne : pairs ≠ [])
    (h : ∀ pair ∈ pairs, Legible pair) : parse (ofAssignments pairs) = pairs := by
  rw [parse, splitParts_ofAssignments ne h]
  clear ne
  induction pairs with
  | nil => rfl
  | cons pair rest ih =>
    have first := (h pair List.mem_cons_self).splitPair?
    have following := ih fun p hp => h p (List.mem_cons_of_mem _ hp)
    rw [List.map_cons, List.filterMap_cons, first, List.map_cons, following]
    simp

/-! ## What keys assign -/

private theorem exists_of_splitParts_eq_cons {s part : List Char} {parts : List (List Char)} {c : Char}
    (cut : splitParts s = (c :: part) :: parts) : ∃ rest, s = c :: rest := by
  unfold splitParts at cut
  split at cut
  · cases cut
  · cases cut
  · split at cut
    · cases cut
      exact ⟨_, rfl⟩
    · cases cut
      exact ⟨_, rfl⟩

/-- No part of a key holds the separator. -/
theorem unseparated_of_mem_splitParts {s part : List Char} (h : part ∈ splitParts s) :
    Unseparated part := by
  fun_induction splitParts s generalizing part with
  | case1 =>
    rw [List.mem_singleton.1 h]
    decide
  | case2 rest ih =>
    rcases List.mem_cons.1 h with rfl | later
    · decide
    · exact ih later
  | case3 c rest _ none ih => exact absurd none (splitParts_ne_nil rest)
  | case4 c rest plain first others cut ih =>
    rcases List.mem_cons.1 h with rfl | later
    · -- A separator at the front would have been cut off.
      intro inside
      rcases List.infix_cons_iff.1 inside with starts | inside
      · obtain ⟨rfl, blank⟩ := List.cons_prefix_cons.1 starts
        obtain ⟨following, rfl⟩ := blank
        obtain ⟨r, rfl⟩ := exists_of_splitParts_eq_cons cut
        exact plain r rfl rfl
      · exact ih (by rw [cut]; exact List.mem_cons_self) inside
    · exact ih (by rw [cut]; exact List.mem_cons_of_mem _ later)

private theorem of_splitPair?_eq_some {part property value : List Char}
    (cut : splitPair? part = some (property, value)) :
    part = property ++ '=' :: value ∧ '=' ∉ property := by
  induction part generalizing property with
  | nil => cases cut
  | cons c part ih =>
    rw [splitPair?] at cut
    split at cut
    · next sign =>
      cases cut
      exact ⟨by rw [sign]; rfl, List.not_mem_nil⟩
    · next other =>
      obtain ⟨⟨k, v⟩, found, same⟩ := Option.map_eq_some_iff.1 cut
      cases same
      obtain ⟨rfl, none⟩ := ih found
      exact ⟨rfl, by simp [Ne.symm other, none]⟩

/-- Whatever a key assigns can be read back. -/
theorem legible_of_mem_parse {key : String} {pair : String × String} (h : pair ∈ parse key) :
    Legible pair := by
  obtain ⟨⟨property, value⟩, found, rfl⟩ := List.mem_map.1 h
  obtain ⟨part, hp, cut⟩ := List.mem_filterMap.1 found
  obtain ⟨rfl, noEquals⟩ := of_splitPair?_eq_some cut
  have whole := unseparated_of_mem_splitParts hp
  refine ⟨?_, ?_, ?_⟩
  · rw [String.toList_ofList]
    exact fun inside => whole (inside.trans (List.prefix_append _ _).isInfix)
  · rwa [String.toList_ofList]
  · rw [String.toList_ofList]
    exact fun inside => whole (inside.trans ((List.suffix_cons _ _).trans (List.suffix_append _ _)).isInfix)

/-! ## Keys that assign nothing -/

private theorem mem_flatten_splitParts {c : Char} (comma : c ≠ ',') (blank : c ≠ ' ') {s : List Char} :
    c ∈ (splitParts s).flatten ↔ c ∈ s := by
  fun_induction splitParts s with
  | case1 => simp
  | case2 rest ih => simp [ih, comma, blank]
  | case3 first rest _ none ih => exact absurd none (splitParts_ne_nil rest)
  | case4 first rest _ part parts cut ih =>
    rw [cut] at ih
    rw [List.flatten_cons, List.cons_append, ← List.flatten_cons, List.mem_cons, List.mem_cons, ih]

/-- A part is cut if it holds an equals sign. -/
theorem splitPair?_eq_none_iff {part : List Char} : splitPair? part = none ↔ '=' ∉ part := by
  induction part with
  | nil => simp [splitPair?]
  | cons c part ih =>
    rw [splitPair?, List.mem_cons, not_or]
    split
    · next sign => simp [sign]
    · next other => simp [ih, Ne.symm other]

/-- A key assigns nothing exactly if it holds no equals sign. -/
theorem parse_eq_nil_iff {key : String} : parse key = [] ↔ '=' ∉ key.toList := by
  rw [parse, List.map_eq_nil_iff, List.filterMap_eq_nil_iff]
  simp only [splitPair?_eq_none_iff]
  rw [← mem_flatten_splitParts (by decide) (by decide), List.mem_flatten]
  constructor
  · rintro none ⟨part, hp, sign⟩
    exact none part hp sign
  · intro none part hp sign
    exact none ⟨part, hp, sign⟩

/-- The key of some assignments holds an equals sign. -/
theorem mem_ofAssignments {pairs : List (String × String)} (ne : pairs ≠ []) :
    '=' ∈ (ofAssignments pairs).toList := by
  cases pairs with
  | nil => exact absurd rfl ne
  | cons pair rest => cases rest <;> simp [ofAssignments, assignment]

end VariantKey

/-! ## Keys of members -/

namespace Node

open VariantKey

/-- The key of a node whose values can be read back is read as these values. -/
theorem parse_variantKey_of_legible {n : Node} (assigned : n.variantProperties.isEmpty = false)
    (h : ∀ e ∈ n.variantProperties.entries, Legible e) :
    parse n.variantKey = n.variantProperties.entries := by
  rw [variantKey, if_neg (by simp [assigned])]
  exact parse_ofAssignments (by simpa [OrderedMap.isEmpty] using assigned) h

/-- The key of a member is read as its values in their order exactly if each of them can be read back: no
property and no value holds the separator, and no property holds an equals sign. -/
theorem parse_variantKey_eq_iff (n : Node) (member : n.isVariantMember = true) :
    parse n.variantKey = n.variantProperties.entries ↔ ∀ e ∈ n.variantProperties.entries, Legible e := by
  constructor
  · intro same e he
    rw [← same] at he
    exact legible_of_mem_parse he
  · exact parse_variantKey_of_legible (by simpa [isVariantMember] using member)

/-- A member whose properties and values begin and end with commas, blanks and equals signs. -/
def edgedMember : Node :=
  { id := "m", name := "Edged", kind := .component,
    variantProperties := ⟨[("State,", "=on,,"), (" Size", " 1 = one,"), ("", "")], by decide⟩ }

theorem parse_variantKey_edgedMember :
    edgedMember.variantKey = "State,==on,,,  Size= 1 = one,, =" ∧
      (edgedMember.isVariantMember = true ∧ ∀ e ∈ edgedMember.variantProperties.entries, Legible e) ∧
      parse edgedMember.variantKey = [("State,", "=on,,"), (" Size", " 1 = one,"), ("", "")] := by
  have member : edgedMember.isVariantMember = true := rfl
  have legible : ∀ e ∈ edgedMember.variantProperties.entries, Legible e := by decide +kernel
  exact ⟨by decide +kernel, ⟨member, legible⟩, (parse_variantKey_eq_iff edgedMember member).2 legible⟩

end Node
end Handoff
