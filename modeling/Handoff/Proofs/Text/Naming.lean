import Handoff.Proofs.Text.Identifier

/-!
# Identifiers as names

The identifier of a design name in which every word is capitalized never starts with a small ASCII letter or
an ASCII digit, and it is empty only if the design name has neither letters nor numbers. Which characters
beyond ASCII a name may have is left open: whatever the answer, it decides alone whether such an identifier
is a name that can be bound.
-/

namespace Handoff

/-! ## Capital forms -/

namespace Unicode

/-- Whether a code point is outside of a range. -/
private def outside (first last : Nat) (n : Int) : Bool := decide (n < first) || decide (last < n)

private theorem isLower_eq_false_iff {c : Char} : c.isLower = false ↔ outside 97 122 c.toNat = true := by
  have unfolded : c.isLower = (decide (97 ≤ c.val) && decide (c.val ≤ 122)) := rfl
  simp [unfolded, outside, UInt32.le_iff_toNat_le, ← Char.toNat_val]
  omega

private theorem isUpper_eq_false_iff {c : Char} : c.isUpper = false ↔ outside 65 90 c.toNat = true := by
  have unfolded : c.isUpper = decide (65 ≤ c.val ∧ c.val ≤ 90) := rfl
  simp [unfolded, outside, UInt32.le_iff_toNat_le, ← Char.toNat_val]
  omega

section

variable {first last : Nat} (positive : 0 < first) (ascii : last < 128)
include positive

private theorem outside_ofNat {n : Nat} (other : outside first last n = true) :
    outside first last (Char.ofNat n).toNat = true := by
  by_cases valid : n.isValidChar
  · rw [toNat_ofNat_of_valid valid, other]
  · rw [Char.ofNat, dif_neg valid]
    exact Bool.or_eq_true_iff.2 (.inl (decide_eq_true (Int.natCast_pos.2 positive)))

include ascii

/-- Above ASCII, a case map misses a range of ASCII characters if its tables do. -/
private theorem outside_mapCase {shifts : List Shift} {special : List (Nat × List Nat)}
    (offsets : ∀ s ∈ shifts, s.span.last + s.offset < first ∨ last < s.span.first + s.offset)
    (images : ∀ e ∈ special, ∀ n ∈ e.2, outside first last (n : Nat) = true) {c : Char}
    (large : ¬c.toNat < 128) : ∀ c' ∈ mapCase shifts special c, outside first last c'.toNat = true := by
  intro c' hc'
  rcases mem_mapCase hc' with ⟨e, he, n, hn, rfl⟩ | ⟨s, hs, inside, rfl⟩ | rfl
  · exact outside_ofNat positive (images e he n hn)
  · obtain ⟨low, high, -⟩ := (Span.contains_iff _ _).1 inside
    have misses := offsets s hs
    refine outside_ofNat positive ?_
    simp only [outside, Bool.or_eq_true, decide_eq_true_eq]
    omega
  · simp only [outside, Bool.or_eq_true, decide_eq_true_eq]
    omega

end

/-- The capital form of a character has no small ASCII letter. -/
theorem isLower_upperChars (c : Char) : ∀ c' ∈ upperChars c, c'.isLower = false := by
  intro c' hc'
  unfold upperChars at hc'
  split at hc'
  · next ascii =>
    have upper : ∀ n < 128, (Char.ofNat n).toUpper.isLower = false := by decide +kernel
    rw [List.mem_singleton.1 hc', ← Char.ofNat_toNat c]
    exact upper c.toNat ascii
  · next large =>
    rw [isLower_eq_false_iff]
    exact outside_mapCase (by decide) (by decide) (by decide +kernel) (by decide +kernel) large c' hc'

/-- The small form of a character has no capital ASCII letter. -/
theorem isUpper_lowerChars (c : Char) : ∀ c' ∈ lowerChars c, c'.isUpper = false := by
  intro c' hc'
  unfold lowerChars at hc'
  split at hc'
  · next ascii =>
    have lower : ∀ n < 128, (Char.ofNat n).toLower.isUpper = false := by decide +kernel
    rw [List.mem_singleton.1 hc', ← Char.ofNat_toNat c]
    exact lower c.toNat ascii
  · next large =>
    rw [isUpper_eq_false_iff]
    exact outside_mapCase (by decide) (by decide) (by decide +kernel) (by decide +kernel) large c' hc'

/-- Every character has a capital form. -/
theorem upperChars_ne_nil (c : Char) : upperChars c ≠ [] := by
  have images : ∀ e ∈ upperSpecial, e.2 ≠ [] := by decide +kernel
  unfold upperChars mapCase
  split
  · exact List.cons_ne_nil _ _
  · split
    · next image found =>
      obtain ⟨before, after, split, -⟩ := List.lookup_eq_some_iff.1 found
      simpa using images (c.toNat, image) (by rw [split]; simp)
    · split <;> exact List.cons_ne_nil _ _

end Unicode

/-! ## Identifiers of design names -/

namespace Text

private theorem capitalize_cases {w : List Char} (ne : w ≠ []) :
    ∃ c rest, capitalize w = c :: rest ∧ c.isLower = false := by
  cases w with
  | nil => exact absurd rfl ne
  | cons first rest =>
    obtain ⟨c, others, upper⟩ := List.exists_cons_of_ne_nil (Unicode.upperChars_ne_nil first)
    refine ⟨c, others ++ rest.flatMap Unicode.lowerChars, by rw [capitalize, upper]; rfl, ?_⟩
    exact Unicode.isLower_upperChars first c (by rw [upper]; exact List.mem_cons_self)

/-- The identifier of a design name is empty, if the name has neither letters nor numbers, or starts with
a character that is no small ASCII letter and no ASCII digit. -/
theorem pascalIdentifier_cases (name : String) :
    (pascalIdentifier name = "" ∧ ∀ c ∈ name.toList, Unicode.isAlphanumeric c = false) ∨
      (∃ c ∈ name.toList, Unicode.isAlphanumeric c = true) ∧
        ∃ c rest, (pascalIdentifier name).toList = c :: rest ∧ c.isLower = false ∧ c.isDigit = false := by
  have cuts := cuts_words name.toList
  by_cases letters : ∃ c ∈ name.toList, Unicode.isAlphanumeric c = true
  · refine .inr ⟨letters, ?_⟩
    have some : words name.toList ≠ [] := mt cuts.eq_nil_iff.1 (by simpa using letters)
    obtain ⟨w, others, cut⟩ := List.exists_cons_of_ne_nil some
    have word : w ≠ [] := fun empty => cuts.nil_notMem (by rw [cut, empty]; exact List.mem_cons_self)
    obtain ⟨c, rest, capital, notSmall⟩ := capitalize_cases word
    rw [pascalIdentifier, String.toList_ofList, cut, List.flatMap_cons, capital, List.cons_append,
      guardDigit]
    split
    · exact ⟨'$', _, rfl, by decide, by decide⟩
    · next noDigit => exact ⟨c, _, rfl, notSmall, by simpa using noDigit⟩
  · have none : ∀ c ∈ name.toList, Unicode.isAlphanumeric c = false := by simpa using letters
    exact .inl ⟨by rw [pascalIdentifier, cuts.eq_nil_iff.2 none]; rfl, none⟩

/-! ## Names that can be bound -/

/-- Which characters beyond ASCII may start a name, and which may stand after its first character. -/
structure Alphabet where
  starts : Char → Bool
  continues : Char → Bool

/-- The words that cannot be bound. -/
def reservedWords : List String :=
  ["arguments", "await", "break", "case", "catch", "class", "const", "continue", "debugger", "default",
    "delete", "do", "else", "enum", "eval", "export", "extends", "false", "finally", "for", "function", "if",
    "implements", "import", "in", "instanceof", "interface", "let", "new", "null", "package", "private",
    "protected", "public", "return", "static", "super", "switch", "this", "throw", "true", "try", "typeof",
    "var", "void", "while", "with", "yield"]

namespace Alphabet

variable (a : Alphabet) {name : String}

/-- Whether a character may start a name. -/
def mayStart (c : Char) : Bool := if c.toNat < 128 then c.isAlpha || c == '$' || c == '_' else a.starts c

/-- Whether a character may stand after the first character of a name. -/
def mayContinue (c : Char) : Bool :=
  if c.toNat < 128 then c.isAlphanum || c == '$' || c == '_' else a.continues c

/-- Whether a text is a name that can be bound. -/
def isIdentifier (name : String) : Bool :=
  match name.toList with
  | [] => false
  | c :: rest => a.mayStart c && rest.all a.mayContinue && !reservedWords.contains name

/-- Whether the characters beyond ASCII of a text may stand where they do in a name. -/
def admits (name : String) : Bool :=
  match name.toList with
  | [] => true
  | c :: rest => (decide (c.toNat < 128) || a.starts c)
      && rest.all fun c => decide (c.toNat < 128) || a.continues c

private theorem mayStart_eq {c : Char} (plain : isPlain c = true) (noDigit : c.isDigit = false) :
    a.mayStart c = (decide (c.toNat < 128) || a.starts c) := by
  unfold mayStart
  split
  · next ascii =>
    simp only [isPlain, Char.isAlphanum, noDigit, Bool.or_false, Bool.or_eq_true, decide_eq_true_eq,
      Nat.not_le.2 ascii, false_or] at plain
    rcases plain with letter | dollar
    · simp [ascii, letter]
    · simp [ascii, dollar]
  · next high => simp [high]

private theorem mayContinue_eq {c : Char} (plain : isPlain c = true) :
    a.mayContinue c = (decide (c.toNat < 128) || a.continues c) := by
  unfold mayContinue
  split
  · next ascii =>
    simp only [isPlain, Bool.or_eq_true, decide_eq_true_eq, Nat.not_le.2 ascii, false_or] at plain
    rcases plain with letter | dollar
    · simp [ascii, letter]
    · simp [ascii, dollar]
  · next high => simp [high]

/-- A text of characters of identifiers whose first character is no small ASCII letter and no ASCII digit is a
name exactly if its characters beyond ASCII are admitted. -/
theorem isIdentifier_eq_admits {c : Char} {rest : List Char} (starts : name.toList = c :: rest)
    (plain : IsPlain name) (notSmall : c.isLower = false) (noDigit : c.isDigit = false) :
    a.isIdentifier name = a.admits name := by
  -- Reserved words start with small letters.
  have free : reservedWords.contains name = false := by
    have small : ∀ word ∈ reservedWords, (word.toList.head?.map Char.isLower) = some true := by
      decide +kernel
    cases reserved : reservedWords.contains name with
    | false => rfl
    | true =>
      have head := small name (by simpa using reserved)
      simp [starts, notSmall] at head
  have following : rest.all a.mayContinue = rest.all fun c => decide (c.toNat < 128) || a.continues c := by
    rw [Bool.eq_iff_iff, List.all_eq_true, List.all_eq_true]
    refine forall_congr' fun c => forall_congr' fun hc => ?_
    rw [a.mayContinue_eq (plain c (by rw [starts]; exact List.mem_cons_of_mem _ hc))]
  have first : isPlain c = true := plain c (by rw [starts]; exact List.mem_cons_self)
  rw [isIdentifier, admits, starts]
  simp only [a.mayStart_eq first noDigit, following, free, Bool.not_false, Bool.and_true]

/-- The identifier of a design name is a name exactly if it is not empty and its characters beyond ASCII are
admitted. -/
theorem isIdentifier_pascalIdentifier (name : String) : a.isIdentifier (pascalIdentifier name) = true ↔
    pascalIdentifier name ≠ "" ∧ a.admits (pascalIdentifier name) = true := by
  rcases pascalIdentifier_cases name with ⟨empty, -⟩ | ⟨-, c, rest, starts, notSmall, noDigit⟩
  · simp [empty, isIdentifier]
  · have nonempty : pascalIdentifier name ≠ "" := by
      intro empty
      simp [empty] at starts
    rw [a.isIdentifier_eq_admits starts (isPlain_pascalIdentifier name) notSmall noDigit]
    simp [nonempty]

/-- The identifier of a design name stays a name with plain ASCII characters after it. -/
theorem isIdentifier_pascalIdentifier_append (name : String) {suffix : String} (plain : IsPlain suffix)
    (ascii : ∀ c ∈ suffix.toList, c.toNat < 128) (h : a.isIdentifier (pascalIdentifier name) = true) :
    a.isIdentifier (pascalIdentifier name ++ suffix) = true := by
  obtain ⟨nonempty, admitted⟩ := (a.isIdentifier_pascalIdentifier name).1 h
  rcases pascalIdentifier_cases name with ⟨empty, -⟩ | ⟨-, c, rest, starts, notSmall, noDigit⟩
  · exact absurd empty nonempty
  · have longer : (pascalIdentifier name ++ suffix).toList = c :: (rest ++ suffix.toList) := by
      rw [String.toList_append, starts, List.cons_append]
    have allPlain : IsPlain (pascalIdentifier name ++ suffix) := by
      intro c hc
      rw [String.toList_append] at hc
      exact (List.mem_append.1 hc).elim (isPlain_pascalIdentifier name c) (plain c)
    have following : suffix.toList.all (fun c => decide (c.toNat < 128) || a.continues c) = true := by
      rw [List.all_eq_true]
      intro c hc
      simp [ascii c hc]
    rw [admits, starts] at admitted
    rw [a.isIdentifier_eq_admits longer allPlain notSmall noDigit, admits, longer]
    simpa only [List.all_append, following, Bool.and_true] using admitted

/-- The alphabet of ASCII. -/
def ascii : Alphabet where
  starts _ := false
  continues _ := false

/-- A name of ASCII characters is a name whatever stands beyond ASCII. -/
theorem isIdentifier_of_ascii (h : ascii.isIdentifier name = true) : a.isIdentifier name = true := by
  have start {c : Char} (h : ascii.mayStart c = true) : a.mayStart c = true := by
    unfold mayStart at h ⊢
    split at h
    · rwa [if_pos ‹_›]
    · cases h
  have further {c : Char} (h : ascii.mayContinue c = true) : a.mayContinue c = true := by
    unfold mayContinue at h ⊢
    split at h
    · rwa [if_pos ‹_›]
    · cases h
  unfold isIdentifier at h ⊢
  split at h
  · cases h
  · simp only [Bool.and_eq_true, List.all_eq_true] at h ⊢
    exact ⟨⟨start h.1.1, fun c hc => further (h.1.2 c hc)⟩, h.2⟩

end Alphabet
end Text
end Handoff
