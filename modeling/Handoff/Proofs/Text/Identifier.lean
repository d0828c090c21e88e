import Handoff.Proofs.Text.Words

/-!
# The characters of identifiers

A word of a design name holds letters and numbers only, and so do its capital and small forms. So the only
ASCII characters of an identifier are letters, digits and the dollar sign: whatever the design name is, its
identifier has neither slashes nor dots nor line feeds.
-/

namespace Handoff

/-! ## Case mappings -/

namespace Text

/-- Whether a character may stand in an identifier: if it is an ASCII character, it is a letter, a digit or
the dollar sign. -/
def isPlain (c : Char) : Bool := decide (128 ≤ c.toNat) || c.isAlphanum || c == '$'

/-- Letters and numbers may stand in an identifier. -/
theorem isPlain_of_isAlphanumeric {c : Char} (h : Unicode.isAlphanumeric c = true) : isPlain c = true := by
  by_cases ascii : c.toNat < 128
  · rw [Unicode.isAlphanumeric_of_ascii ascii] at h
    simp [isPlain, h]
  · simp [isPlain, Nat.le_of_not_lt ascii]

end Text

namespace Unicode

open Text

/-- A shift that leads from code points to characters: above ASCII, or from one code point to a letter. -/
private def Shift.lands (s : Shift) : Bool :=
  decide (0 ≤ s.span.first + s.offset) &&
    (decide (128 ≤ s.span.first + s.offset) &&
        (decide (s.span.last + s.offset < 0xd800) ||
          decide (0xdfff < s.span.first + s.offset) && decide (s.span.last + s.offset < 0x110000)) ||
      s.span.first == s.span.last && isPlain (Char.ofNat (s.span.first + s.offset).toNat))

/-- A valid code point is that of its character. -/
theorem toNat_ofNat_of_valid {n : Nat} (valid : n.isValidChar) : (Char.ofNat n).toNat = n := by
  rw [Char.ofNat, dif_pos valid]
  rfl

private theorem isPlain_of_valid {n : Nat} (large : 128 ≤ n) (valid : n.isValidChar) :
    isPlain (Char.ofNat n) = true := by
  simp [isPlain, toNat_ofNat_of_valid valid, large]

private theorem isPlain_of_lands {s : Shift} (h : s.lands = true) {n : Nat}
    (inside : s.span.contains n = true) : isPlain (Char.ofNat (n + s.offset).toNat) = true := by
  obtain ⟨low, high, -⟩ := (Span.contains_iff _ _).1 inside
  simp only [Shift.lands, Bool.and_eq_true, Bool.or_eq_true, decide_eq_true_eq, beq_iff_eq] at h
  obtain ⟨-, ⟨large, valid⟩ | ⟨single, plain⟩⟩ := h
  · refine isPlain_of_valid (by omega) ?_
    rcases valid with below | ⟨above, bounded⟩
    · exact .inl (by omega)
    · exact .inr ⟨by omega, by omega⟩
  · rw [show n = s.span.first by omega]
    exact plain

/-- A character of an image comes from a sequence of the one table, from a shift of the other, or it is the
character that is mapped. -/
theorem mem_mapCase {shifts : List Shift} {special : List (Nat × List Nat)} {c c' : Char}
    (h : c' ∈ mapCase shifts special c) :
    (∃ e ∈ special, ∃ n ∈ e.2, c' = Char.ofNat n) ∨
      (∃ s ∈ shifts, s.span.contains c.toNat = true ∧ c' = Char.ofNat (c.toNat + s.offset).toNat) ∨
      c' = c := by
  unfold mapCase at h
  split at h
  · next image found =>
    obtain ⟨n, hn, rfl⟩ := List.mem_map.1 h
    obtain ⟨before, after, split, -⟩ := List.lookup_eq_some_iff.1 found
    exact .inl ⟨(c.toNat, image), by rw [split]; simp, n, hn, rfl⟩
  · split at h
    · next s found =>
      have inside : s.span.contains c.toNat = true := by simpa using List.find?_some found
      exact .inr (.inl ⟨s, List.mem_of_find?_eq_some found, inside, List.mem_singleton.1 h⟩)
    · exact .inr (.inr (List.mem_singleton.1 h))

private theorem isPlain_mapCase {shifts : List Shift} {special : List (Nat × List Nat)}
    (lands : ∀ s ∈ shifts, s.lands = true)
    (images : ∀ e ∈ special, ∀ n ∈ e.2, isPlain (Char.ofNat n) = true) {c : Char}
    (plain : isPlain c = true) : ∀ c' ∈ mapCase shifts special c, isPlain c' = true := by
  intro c' hc'
  rcases mem_mapCase hc' with ⟨e, he, n, hn, rfl⟩ | ⟨s, hs, inside, rfl⟩ | rfl
  · exact images e he n hn
  · exact isPlain_of_lands (lands s hs) inside
  · exact plain

/-- The capital form of a character of an identifier may stand in an identifier. -/
theorem isPlain_upperChars {c : Char} (plain : isPlain c = true) :
    ∀ c' ∈ upperChars c, isPlain c' = true := by
  unfold upperChars
  split
  · next ascii =>
    have upper : ∀ n < 128, isPlain (Char.ofNat n) = true → isPlain (Char.ofNat n).toUpper = true := by
      decide +kernel
    intro c' hc'
    rw [List.mem_singleton.1 hc']
    exact forall_ascii (P := fun c => isPlain c = true → isPlain c.toUpper = true) upper ascii plain
  · exact isPlain_mapCase (by decide +kernel) (by decide +kernel) plain

/-- The small form of a character of an identifier may stand in an identifier. -/
theorem isPlain_lowerChars {c : Char} (plain : isPlain c = true) :
    ∀ c' ∈ lowerChars c, isPlain c' = true := by
  unfold lowerChars
  split
  · next ascii =>
    have lower : ∀ n < 128, isPlain (Char.ofNat n) = true → isPlain (Char.ofNat n).toLower = true := by
      decide +kernel
    intro c' hc'
    rw [List.mem_singleton.1 hc']
    exact forall_ascii (P := fun c => isPlain c = true → isPlain c.toLower = true) lower ascii plain
  · exact isPlain_mapCase (by decide +kernel) (by decide +kernel) plain

end Unicode

/-! ## Identifiers -/

namespace Text

private theorem isPlain_capitalize {w : List Char} (h : ∀ c ∈ w, isPlain c = true) :
    ∀ c ∈ capitalize w, isPlain c = true := by
  cases w with
  | nil => exact fun c hc => (by cases hc)
  | cons first rest =>
    intro c hc
    rcases List.mem_append.1 hc with hc | hc
    · exact Unicode.isPlain_upperChars (h first List.mem_cons_self) c hc
    · obtain ⟨small, hsmall, hc⟩ := List.mem_flatMap.1 hc
      exact Unicode.isPlain_lowerChars (h small (List.mem_cons_of_mem _ hsmall)) c hc

private theorem isPlain_lowercaseAfter {before w : List Char} (h : ∀ c ∈ w, isPlain c = true) :
    ∀ c ∈ lowercaseAfter before w, isPlain c = true := by
  induction w generalizing before with
  | nil => exact fun c hc => (by cases hc)
  | cons first rest ih =>
    intro c hc
    rcases List.mem_append.1 hc with hc | hc
    · split at hc
      · rw [List.mem_singleton.1 hc]
        split <;> decide
      · exact Unicode.isPlain_lowerChars (h first List.mem_cons_self) c hc
    · exact ih (fun c hc => h c (List.mem_cons_of_mem _ hc)) c hc

private theorem isPlain_guardDigit {s : List Char} (h : ∀ c ∈ s, isPlain c = true) :
    ∀ c ∈ guardDigit s, isPlain c = true := by
  cases s with
  | nil => exact h
  | cons first rest =>
    rw [guardDigit]
    split
    · intro c hc
      rcases List.mem_cons.1 hc with rfl | hc
      · rfl
      · exact h c hc
    · exact h

/-- Whether all characters of a text may stand in an identifier. -/
def IsPlain (name : String) : Prop := ∀ c ∈ name.toList, isPlain c = true

/-- The identifier of any design name holds characters of identifiers only. -/
theorem isPlain_pascalIdentifier (name : String) : IsPlain (pascalIdentifier name) := by
  intro c hc
  rw [pascalIdentifier, String.toList_ofList] at hc
  refine isPlain_guardDigit (fun c hc => ?_) c hc
  obtain ⟨w, hw, hc⟩ := List.mem_flatMap.1 hc
  have word := (cuts_words name.toList).isAlphanumeric_of_mem hw
  exact isPlain_capitalize (fun c hc => isPlain_of_isAlphanumeric (word c hc)) c hc

/-- The identifier of a design name that starts with a small word holds characters of identifiers only, too. -/
theorem isPlain_camelIdentifier (name : String) : IsPlain (camelIdentifier name) := by
  have word : ∀ w ∈ words name.toList, ∀ c ∈ w, isPlain c = true := fun w hw c hc =>
    isPlain_of_isAlphanumeric ((cuts_words name.toList).isAlphanumeric_of_mem hw c hc)
  intro c hc
  rw [camelIdentifier, String.toList_ofList] at hc
  refine isPlain_guardDigit (fun c hc => ?_) c hc
  cases cut : words name.toList with
  | nil =>
    rw [cut] at hc
    cases hc
  | cons first rest =>
    rw [cut] at hc word
    rcases List.mem_append.1 hc with hc | hc
    · exact isPlain_lowercaseAfter (word first List.mem_cons_self) c hc
    · obtain ⟨w, hw, hc⟩ := List.mem_flatMap.1 hc
      exact isPlain_capitalize (word w (List.mem_cons_of_mem _ hw)) c hc

/-- An identifier holds no character of another kind. -/
theorem IsPlain.not_mem {name : String} (h : IsPlain name) {c : Char} (other : isPlain c = false) :
    c ∉ name.toList := fun hc => by
  rw [h c hc] at other
  cases other

end Text
end Handoff
