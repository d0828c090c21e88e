import Handoff.Command.Run
import Handoff.Proofs.Text.Naming
import Handoff.Proofs.Text.Split
import Mathlib.Data.List.TakeWhile

/-!
# Names that icons are given

What a file is called is turned into small ASCII letters, digits and hyphens. So every set under which icons
may be imported and every name of a file make an icon name, unless nothing of the name of the file is left.
An icon name is read back as the name of its set, a colon and its own name.
-/

namespace Handoff

namespace Text

/-- A text in small letters has no capital ASCII letter. -/
theorem isUpper_lowercase (s : List Char) : ∀ c ∈ lowercase s, c.isUpper = false := by
  have after (before s : List Char) : ∀ c ∈ lowercaseAfter before s, c.isUpper = false := by
    induction s generalizing before with
    | nil => simp [lowercaseAfter]
    | cons first rest ih =>
      intro c hc
      rcases List.mem_append.1 hc with own | later
      · split at own
        · rw [List.mem_singleton.1 own]
          split <;> decide
        · exact Unicode.isUpper_lowerChars first c own
      · exact ih _ c later
  exact after [] s

private theorem colon_not_mem {part : List Char} (h : isIconPart part = true) : ':' ∉ part := by
  intro colon
  rw [isIconPart, Bool.and_eq_true, List.all_eq_true] at h
  exact absurd (h.2 ':' colon) (by decide)

private theorem append_colon_append (set name : String) :
    set ++ ":" ++ name = String.ofList (set.toList ++ ':' :: name.toList) := by
  simp [← String.toList_inj]

/-- An icon name has one colon, with a part of an icon name on either side. -/
theorem isIconName_append {set name : List Char} (hset : isIconPart set = true)
    (hname : isIconPart name = true) : isIconName (String.ofList (set ++ ':' :: name)) = true := by
  rw [isIconName, String.toList_ofList, splitOnChar_append, splitOnChar_of_not_mem (colon_not_mem hset),
    splitOnChar_of_not_mem (colon_not_mem hname)]
  simp [hset, hname]

/-- A text that makes an icon name with a colon and another text is a part of an icon name itself. -/
theorem isIconPart_of_isIconName {set name : List Char}
    (h : isIconName (String.ofList (set ++ ':' :: name)) = true) : isIconPart set = true := by
  rw [isIconName, String.toList_ofList, splitOnChar_append] at h
  have whole := intercalate_splitOnChar ':' set
  -- With two pieces in all, and at least one on either side of the colon, there is one on each.
  cases pieces : splitOnChar ':' set with
  | nil => exact absurd pieces (splitOnChar_ne_nil ':' set)
  | cons first rest =>
    rw [pieces] at h whole
    have others := splitOnChar_ne_nil ':' name
    cases rest with
    | nil =>
      have own : first = set := by simpa using whole
      cases tail : splitOnChar ':' name with
      | nil => exact absurd tail others
      | cons a more =>
        rw [tail] at h
        cases more with
        | nil =>
          rw [← own]
          simpa using (Bool.and_eq_true_iff.1 h).1
        | cons b more => cases h
    | cons second rest =>
      cases tail : rest ++ splitOnChar ':' name with
      | nil => exact absurd (List.append_eq_nil_iff.1 tail).2 others
      | cons a more =>
        simp [tail] at h

/-- Whether a text is what precedes the first colon of another, or all of it if it has no colon. -/
def IsSetOf (set icon : String) : Prop :=
  ':' ∉ set.toList ∧ (icon = set ∨ ∃ name, icon = set ++ ":" ++ name)

/-- The set of an icon precedes the first colon. -/
theorem iconSet_eq_iff {icon set : String} : iconSet icon = set ↔ IsSetOf set icon := by
  constructor
  · rintro rfl
    have colonless : ':' ∉ icon.toList.takeWhile (· ≠ ':') := fun colon => by
      simpa using List.mem_takeWhile_imp colon
    have whole := List.takeWhile_append_dropWhile (p := (· ≠ ':')) (l := icon.toList)
    refine ⟨by rwa [iconSet, String.toList_ofList], ?_⟩
    cases rest : icon.toList.dropWhile (· ≠ ':') with
    | nil =>
      rw [rest, List.append_nil] at whole
      exact .inl (String.toList_inj.1 (by rw [iconSet, String.toList_ofList, whole]))
    | cons c name =>
      obtain rfl : c = ':' := by
        have stops := List.head?_dropWhile_not (· ≠ ':') icon.toList
        rw [rest] at stops
        simpa using stops
      refine .inr ⟨String.ofList name, String.toList_inj.1 ?_⟩
      rw [rest] at whole
      simp only [iconSet, String.toList_append, String.toList_ofList]
      simpa using whole.symm
  · rintro ⟨colonless, split⟩
    have inside : ∀ c ∈ set.toList, decide (c ≠ ':') = true := fun c hc =>
      decide_eq_true (ne_of_mem_of_not_mem hc colonless)
    rw [iconSet, ← String.toList_inj, String.toList_ofList]
    rcases split with rfl | ⟨name, rfl⟩
    · exact List.takeWhile_eq_self_iff.2 inside
    · rw [String.append_assoc, String.toList_append, List.takeWhile_append_of_pos inside]
      simp

/-- The set of an icon name is what makes the name with a colon and another text. -/
theorem isSetOf_iff_of_isIconName {icon set : String} (h : isIconName icon = true) :
    IsSetOf set icon ↔ ∃ name, icon = set ++ ":" ++ name := by
  constructor
  · rintro ⟨colonless, rfl | split⟩
    · rw [isIconName, splitOnChar_of_not_mem colonless] at h
      cases h
    · exact split
  · rintro ⟨name, rfl⟩
    rw [append_colon_append] at h
    exact ⟨colon_not_mem (isIconPart_of_isIconName h), .inr ⟨name, rfl⟩⟩

end Text

namespace Command

/-- The name of an icon is a part of an icon name, unless it is empty. -/
theorem isIconPart_iconName {stem : String} (named : iconName stem ≠ "") :
    Text.isIconPart (iconName stem).toList = true := by
  have small : ∀ c ∈ (iconName stem).toList, Text.isIconChar c = true := by
    intro c hc
    rw [iconName, String.toList_ofList] at hc
    have mapped := (List.dropWhile_sublist _).subset (List.mem_reverse.1
      ((List.dropWhile_sublist _).subset (List.mem_reverse.1 hc)))
    obtain ⟨c', hc', rfl⟩ := List.mem_map.1 mapped
    have upper := Text.isUpper_lowercase stem.toList c' hc'
    cases alphanumeric : c'.isAlphanum with
    | false => rfl
    | true =>
      have classes : ((c'.isUpper || c'.isLower) || c'.isDigit) = true := alphanumeric
      rw [upper, Bool.false_or] at classes
      simpa [Text.isIconChar] using .inl (Bool.or_eq_true_iff.1 classes)
  rw [Text.isIconPart, List.all_eq_true.2 small, Bool.and_true, Bool.not_eq_true', List.isEmpty_eq_false_iff]
  exact fun empty => named (String.toList_eq_nil_iff.1 empty)

/-- Under a set that icons may have, every icon that is named has an icon name. -/
theorem isIconName_iconName {set stem : String} (accepted : isIconSet set = true)
    (named : iconName stem ≠ "") : Text.isIconName (set ++ ":" ++ iconName stem) = true := by
  have part : Text.isIconPart set.toList = true := by
    have whole : Text.isIconName (String.ofList (set.toList ++ ':' :: "icon".toList)) = true := by
      rw [← Text.append_colon_append, String.append_assoc]
      exact accepted
    exact Text.isIconPart_of_isIconName whole
  rw [Text.append_colon_append]
  exact Text.isIconName_append part (isIconPart_iconName named)

end Command
end Handoff
