import Handoff.Json.Printer
import Handoff.Json.Reader
import Handoff.Proofs.Ordered.Attempts

/-!
# Printed values read back

The reader is a left inverse of the compact printer on values whose numerals are read back: whatever
follows the text of a value, reading it stops at its end. A numeral could go on, so it must be followed
by a character that no numeral contains.
-/

namespace Handoff.Json

/-! ## Strings -/

private theorem codeUnit?_hexFour {n : Nat} (h : n < 65536) :
    codeUnit? (Nat.digitChar (n / 4096 % 16)) (Nat.digitChar (n / 256 % 16))
      (Nat.digitChar (n / 16 % 16)) (Nat.digitChar (n % 16)) = some n := by
  have lt (m : Nat) : m % 16 < 16 := Nat.mod_lt m (by decide)
  unfold codeUnit?
  rw [Text.hexValue?_digitChar _ (lt _), Text.hexValue?_digitChar _ (lt _),
    Text.hexValue?_digitChar _ (lt _), Text.hexValue?_digitChar _ (lt _)]
  show some (4096 * (n / 4096 % 16) + 256 * (n / 256 % 16) + 16 * (n / 16 % 16) + n % 16) = some n
  congr 1
  omega

/-- A read string with one more character in front. -/
private def consUnit (n : Nat) (read : List Nat × List Char) : List Nat × List Char :=
  (n :: read.1, read.2)

private theorem stringUnits_simple {letter c : Char} (tail : List Char)
    (hu : letter ≠ 'u') (h : simpleEscape? letter = some c) :
    stringUnits ('\\' :: letter :: tail) = (stringUnits tail).map (consUnit c.toNat) := by
  rw [stringUnits]
  · rw [h]
    cases stringUnits tail <;> rfl
  · intro a b c d rest he
    exact fun _ => hu he

private theorem stringUnits_plain {c : Char} (tail : List Char) (hq : c ≠ '"') (hb : c ≠ '\\')
    (h : ¬ c.toNat < 32) : stringUnits (c :: tail) = (stringUnits tail).map (consUnit c.toNat) := by
  rw [stringUnits]
  · rw [if_neg (by simp [h, hb])]
    cases stringUnits tail <;> rfl
  · exact hq
  · intro a b c d rest he
    exact absurd he hb
  · intro letter rest he
    exact absurd he hb

private theorem stringUnits_escapeChar (c : Char) (tail : List Char) :
    stringUnits (escapeChar c ++ tail) = (stringUnits tail).map (consUnit c.toNat) := by
  unfold escapeChar
  by_cases h₁ : c = '"'
  · rw [if_pos h₁, h₁]; exact stringUnits_simple tail (by decide) rfl
  by_cases h₂ : c = '\\'
  · rw [if_neg h₁, if_pos h₂, h₂]; exact stringUnits_simple tail (by decide) rfl
  rw [if_neg h₁, if_neg h₂]
  by_cases h₃ : c.toNat = 8
  · rw [if_pos h₃, h₃]; exact stringUnits_simple tail (show 'b' ≠ 'u' by decide) rfl
  by_cases h₄ : c.toNat = 12
  · rw [if_neg h₃, if_pos h₄, h₄]; exact stringUnits_simple tail (show 'f' ≠ 'u' by decide) rfl
  rw [if_neg h₃, if_neg h₄]
  by_cases h₅ : c = '\n'
  · rw [if_pos h₅, h₅]; exact stringUnits_simple tail (by decide) rfl
  by_cases h₆ : c = '\r'
  · rw [if_neg h₅, if_pos h₆, h₆]; exact stringUnits_simple tail (by decide) rfl
  by_cases h₇ : c = '\t'
  · rw [if_neg h₅, if_neg h₆, if_pos h₇, h₇]; exact stringUnits_simple tail (by decide) rfl
  rw [if_neg h₅, if_neg h₆, if_neg h₇]
  by_cases h₈ : c.toNat < 32
  · rw [if_pos h₈]
    show stringUnits ('\\' :: 'u' :: Nat.digitChar _ :: Nat.digitChar _ :: Nat.digitChar _ ::
      Nat.digitChar _ :: tail) = _
    rw [stringUnits, codeUnit?_hexFour (by omega)]
    cases stringUnits tail <;> rfl
  · rw [if_neg h₈]
    exact stringUnits_plain tail h₁ h₂ h₈

private theorem stringUnits_escaped (l rest : List Char) :
    stringUnits (l.flatMap escapeChar ++ '"' :: rest) = some (l.map Char.toNat, rest) := by
  induction l with
  | nil => simp [stringUnits]
  | cons c l ih =>
    rw [List.flatMap_cons, List.append_assoc, stringUnits_escapeChar, ih]
    rfl

private theorem not_surrogate (c : Char) :
    isHighSurrogate c.toNat = false ∧ isLowSurrogate c.toNat = false := by
  have h : c.toNat < 0xD800 ∨ 0xDFFF < c.toNat ∧ c.toNat < 0x110000 := c.valid
  unfold isHighSurrogate isLowSurrogate
  constructor
  · rw [Bool.and_eq_false_iff, decide_eq_false_iff_not, decide_eq_false_iff_not]
    omega
  · rw [Bool.and_eq_false_iff, decide_eq_false_iff_not, decide_eq_false_iff_not]
    omega

private theorem joinUnits?_map_toNat (l : List Char) : joinUnits? (l.map Char.toNat) = some l := by
  induction l with
  | nil => rfl
  | cons c l ih =>
    obtain ⟨hh, hl⟩ := not_surrogate c
    cases l with
    | nil => simp [joinUnits?, hh, hl]
    | cons d rest =>
      simp only [List.map_cons] at ih ⊢
      simp [joinUnits?, hh, hl, ih]

/-- The content of a printed string reads back. -/
theorem stringBody_escaped (s : String) (rest : List Char) :
    stringBody (s.toList.flatMap escapeChar ++ '"' :: rest) = some (some s, rest) := by
  unfold stringBody
  rw [stringUnits_escaped]
  show some ((joinUnits? (s.toList.map Char.toNat)).map String.ofList, rest) = _
  rw [joinUnits?_map_toNat]
  simp

/-! ## Numerals -/

/-- Whether a text cannot go on a numeral that stands before it. -/
def EndsNumeral (rest : List Char) : Prop :=
  ∀ c ∈ rest.head?, c.isDigit = false ∧ c ≠ '.' ∧ c ≠ 'e' ∧ c ≠ 'E'

/-- A numeral ends with the text. -/
theorem endsNumeral_nil : EndsNumeral [] := by
  intro c hc
  cases hc

private theorem takeDigitChars_append {rest : List Char} (hr : EndsNumeral rest) (s : List Char) :
    takeDigitChars (s ++ rest) = ((takeDigitChars s).1, (takeDigitChars s).2 ++ rest) := by
  unfold takeDigitChars
  induction s with
  | nil =>
    cases rest with
    | nil => rfl
    | cons c t =>
      have hc := (hr c rfl).1
      simp [hc]
  | cons c t ih =>
    by_cases hc : c.isDigit = true
    · simp only [List.cons_append, List.takeWhile_cons, List.dropWhile_cons, hc, if_true]
      rw [Prod.mk.injEq] at ih
      rw [ih.1, ih.2]
    · simp [hc]

private theorem fraction?_append {rest : List Char} (hr : EndsNumeral rest) {s t : List Char}
    {f : Option (List Char)} (h : fraction? s = some (f, t)) :
    fraction? (s ++ rest) = some (f, t ++ rest) := by
  by_cases hp : ∃ digits, s = '.' :: digits
  · obtain ⟨digits, rfl⟩ := hp
    simp only [fraction?, List.cons_append, takeDigitChars_append hr] at h ⊢
    generalize takeDigitChars digits = taken at h ⊢
    obtain ⟨ds, left⟩ := taken
    cases ds with
    | nil => cases h
    | cons d ds => cases h; rfl
  · have hs : fraction? s = some (none, s) := by
      rw [fraction?]
      intro digits he
      exact hp ⟨digits, he⟩
    rw [hs] at h
    cases h
    rw [fraction?]
    intro digits he
    cases s with
    | nil =>
      have hc := (hr '.' (by simp only [List.nil_append] at he; rw [he]; rfl)).2.1
      exact hc rfl
    | cons c t =>
      rw [List.cons_append, List.cons.injEq] at he
      exact hp ⟨t, by rw [he.1]⟩

private theorem exponentDigits?_append {rest : List Char} (hr : EndsNumeral rest)
    {s t : List Char} {n : Nat} (h : exponentDigits? s = some (n, t)) :
    exponentDigits? (s ++ rest) = some (n, t ++ rest) := by
  unfold exponentDigits? at h ⊢
  rw [takeDigitChars_append hr]
  generalize takeDigitChars s = taken at h ⊢
  obtain ⟨ds, left⟩ := taken
  cases ds with
  | nil => cases h
  | cons d ds => cases h; rfl

private theorem exponent?_append {rest : List Char} (hr : EndsNumeral rest) {s t : List Char}
    {e : Option Int} (h : exponent? s = some (e, t)) :
    exponent? (s ++ rest) = some (e, t ++ rest) := by
  -- The three forms of an exponent differ only in what is made of its digits.
  have digits (f : Nat → Option Int) {s : List Char}
      (h : (exponentDigits? s).map (fun r => (f r.1, r.2)) = some (e, t)) :
      (exponentDigits? (s ++ rest)).map (fun r => (f r.1, r.2)) = some (e, t ++ rest) := by
    obtain ⟨⟨n, left⟩, read, same⟩ := Option.map_eq_some_iff.1 h
    cases same
    rw [exponentDigits?_append hr read]
    rfl
  cases s with
  | nil =>
    cases h
    cases rest with
    | nil => rfl
    | cons c t =>
      obtain ⟨-, -, hc, hC⟩ := hr c rfl
      simp [exponent?, hc, hC]
  | cons c s =>
    by_cases hc : c = 'e' ∨ c = 'E'
    · cases s with
      | nil => simp [exponent?, hc, exponentDigits?, takeDigitChars] at h
      | cons sign s =>
        simp only [exponent?, if_pos hc, List.cons_append] at h ⊢
        split at h
        · next same =>
          cases same
          exact digits (fun n => some (-n)) h
        · next same =>
          cases same
          exact digits (fun n => some n) h
        · next hm hp =>
          split
          · next same => cases same; exact absurd rfl (hm s)
          · next same => cases same; exact absurd rfl (hp s)
          · exact digits (fun n => some n) h
    · simp only [exponent?, if_neg hc, List.cons_append] at h ⊢
      cases h
      rfl

private theorem magnitude?_append {rest : List Char} (hr : EndsNumeral rest) {negative : Bool}
    {s : List Char} {j : Json} (h : magnitude? negative s = some (j, [])) :
    magnitude? negative (s ++ rest) = some (j, rest) := by
  unfold magnitude? at h ⊢
  rw [takeDigitChars_append hr]
  generalize takeDigitChars s = taken at h ⊢
  obtain ⟨whole, left⟩ := taken
  simp only at h ⊢
  split at h
  · cases h
  · next hw =>
    rw [if_neg hw]
    obtain ⟨⟨f, afterFraction⟩, hf, h⟩ := Option.bind_eq_some_iff.1 h
    obtain ⟨⟨e, afterExponent⟩, he, h⟩ := Option.bind_eq_some_iff.1 h
    cases h
    rw [fraction?_append hr hf]
    show (exponent? (afterFraction ++ rest)).bind _ = _
    rw [exponent?_append hr he]
    rfl

/-- A numeral reads the same before a text that cannot go on it. -/
theorem numeral?_append {rest : List Char} (hr : EndsNumeral rest) {s : List Char} {j : Json}
    (h : numeral? s = some (j, [])) : numeral? (s ++ rest) = some (j, rest) := by
  by_cases hm : ∃ t, s = '-' :: t
  · obtain ⟨t, rfl⟩ := hm
    exact magnitude?_append hr h
  · have hs : numeral? s = magnitude? false s := by
      rw [numeral?]
      intro t he
      exact hm ⟨t, he⟩
    have hne : s ≠ [] := by
      intro he
      rw [he] at h
      cases h
    rw [numeral?]
    · exact magnitude?_append hr (hs ▸ h)
    · intro t he
      cases s with
      | nil => exact hne rfl
      | cons c s =>
        rw [List.cons_append, List.cons.injEq] at he
        exact hm ⟨s, by rw [he.1]⟩

/-- A numeral starts with a minus or a digit. -/
theorem head_of_numeral {s : List Char} {j : Json} {rest : List Char}
    (h : numeral? s = some (j, rest)) : ∃ c t, s = c :: t ∧ (c = '-' ∨ c.isDigit = true) := by
  cases s with
  | nil => cases h
  | cons c t =>
    by_cases hm : c = '-'
    · exact ⟨c, t, rfl, Or.inl hm⟩
    · refine ⟨c, t, rfl, Or.inr ?_⟩
      rw [numeral?] at h
      · by_cases hd : c.isDigit = true
        · exact hd
        · simp [magnitude?, takeDigitChars, hd] at h
      · intro u he
        exact hm (List.cons.inj he).1

/-! ## Values -/

mutual

/-- Whether a value is used as it is printed: nothing in it is unusable, and its numerals read back. -/
def Legible : Json → Prop
  | int i => numeral? (toString i).toList = some (int i, [])
  | number x => numeral? (numberChars x) = some (number x, [])
  | array items => LegibleItems items
  | object members => LegibleMembers members
  | unusable => False
  | _ => True

/-- Whether all items are used as they are printed. -/
def LegibleItems : List Json → Prop
  | [] => True
  | item :: rest => Legible item ∧ LegibleItems rest

/-- Whether the values of all members are used as they are printed. -/
def LegibleMembers : List (String × Json) → Prop
  | [] => True
  | (_, value) :: rest => Legible value ∧ LegibleMembers rest

end

/-- Whether a character can start a value, which no blank and no closing bracket does. -/
def StartsValue (c : Char) : Prop := isBlank c = false ∧ c ≠ ']' ∧ c ≠ '\x7d'

/-- The first character of a numeral starts a value, and no other kind of value. -/
theorem startsValue_of_numeral {c : Char} (h : c = '-' ∨ c.isDigit = true) :
    StartsValue c ∧ c ≠ '"' ∧ c ≠ '[' ∧ c ≠ '\x7b' ∧ c ≠ 'n' ∧ c ≠ 't' ∧ c ≠ 'f' := by
  have apart {d : Char} (hm : d ≠ '-') (hd : d.isDigit = false) : c ≠ d := by
    rintro rfl
    rcases h with h | h
    · exact hm h
    · rw [hd] at h
      cases h
  have blank : isBlank c = false := by
    simp [isBlank, apart (d := ' ') (by decide) (by decide), apart (d := '\n') (by decide) (by decide),
      apart (d := '\t') (by decide) (by decide), apart (d := '\r') (by decide) (by decide)]
  exact ⟨⟨blank, apart (by decide) (by decide), apart (by decide) (by decide)⟩,
    apart (by decide) (by decide), apart (by decide) (by decide), apart (by decide) (by decide),
    apart (by decide) (by decide), apart (by decide) (by decide), apart (by decide) (by decide)⟩

/-- A printed value begins as a value. -/
theorem head_compactChars {j : Json} (h : Legible j) :
    ∃ c t, compactChars j = c :: t ∧ StartsValue c := by
  have numeral {s : List Char} {j : Json} (h : numeral? s = some (j, [])) :
      ∃ c t, s = c :: t ∧ StartsValue c := by
    obtain ⟨c, t, hs, hc⟩ := head_of_numeral h
    exact ⟨c, t, hs, (startsValue_of_numeral hc).1⟩
  cases j with
  | null => exact ⟨'n', _, rfl, by decide, by decide, by decide⟩
  | bool b =>
    cases b with
    | true => exact ⟨'t', _, rfl, by decide, by decide, by decide⟩
    | false => exact ⟨'f', _, rfl, by decide, by decide, by decide⟩
  | int i => exact numeral h
  | number x => exact numeral h
  | string s => exact ⟨'"', _, rfl, by decide, by decide, by decide⟩
  | array items => exact ⟨'[', _, by rw [compactChars], by decide, by decide, by decide⟩
  | object members => exact ⟨'\x7b', _, by rw [compactChars], by decide, by decide, by decide⟩
  | unusable => exact h.elim

/-- A string begins as a value. -/
theorem startsValue_quote : StartsValue '"' := ⟨by decide, by decide, by decide⟩

/-- There is no blank in front of a value. -/
theorem skipBlanks_of_startsValue {c : Char} {t : List Char} (h : StartsValue c) :
    skipBlanks (c :: t) = c :: t := by
  simp [skipBlanks, h.1]

theorem skipBlanks_colon (t : List Char) : skipBlanks (':' :: t) = ':' :: t := by
  simp [skipBlanks, isBlank]

theorem skipBlanks_comma (t : List Char) : skipBlanks (',' :: t) = ',' :: t := by
  simp [skipBlanks, isBlank]

theorem skipBlanks_brace (t : List Char) : skipBlanks ('\x7d' :: t) = '\x7d' :: t := by
  simp [skipBlanks, isBlank]

/-- A numeral is read as a value, whatever follows it that does not go on it. -/
theorem readValue?_numeral {s rest : List Char} {j : Json} {fuel : Nat}
    (h : numeral? s = some (j, [])) (hr : EndsNumeral rest) :
    readValue? (fuel + 1) (s ++ rest) = some (j, rest) := by
  obtain ⟨c, t, rfl, hc⟩ := head_of_numeral h
  obtain ⟨start, hq, ha, ho, hn, ht, hf⟩ := startsValue_of_numeral hc
  have value := numeral?_append hr h
  rw [List.cons_append] at value ⊢
  rw [readValue?, skipBlanks_of_startsValue start]
  split
  · next he => exact absurd (List.cons.inj he).1 hq
  · next he => exact absurd (List.cons.inj he).1 ha
  · next he => exact absurd (List.cons.inj he).1 ho
  · next he => exact absurd (List.cons.inj he).1 hn
  · next he => exact absurd (List.cons.inj he).1 ht
  · next he => exact absurd (List.cons.inj he).1 hf
  · exact value

/-- A printed string is read as a value. -/
theorem readValue?_string (s : String) (rest : List Char) (fuel : Nat) :
    readValue? (fuel + 1) (stringChars s ++ rest) = some (string s, rest) := by
  have h : stringChars s ++ rest = '"' :: (s.toList.flatMap escapeChar ++ '"' :: rest) := by
    simp [stringChars]
  rw [h, readValue?, skipBlanks_of_startsValue (by exact ⟨by decide, by decide, by decide⟩)]
  show (stringBody (s.toList.flatMap escapeChar ++ '"' :: rest)).map _ = _
  rw [stringBody_escaped]
  rfl

/-- A mark between values ends a numeral. -/
theorem endsNumeral_of_mark {c : Char} (t : List Char)
    (h : c = ',' ∨ c = ']' ∨ c = '\x7d') : EndsNumeral (c :: t) := by
  intro d hd
  cases hd
  rcases h with rfl | rfl | rfl <;> decide

private theorem compactItems_cons (item : Json) (rest : List Json) :
    compactItems (item :: rest) =
      compactChars item ++ match rest with
        | [] => [']']
        | next :: others => ',' :: compactItems (next :: others) := by
  cases rest <;> rw [compactItems]

private theorem compactMembers_cons (key : String) (value : Json) (rest : List (String × Json)) :
    compactMembers ((key, value) :: rest) =
      stringChars key ++ ':' :: (compactChars value ++ match rest with
        | [] => ['\x7d']
        | next :: others => ',' :: compactMembers (next :: others)) := by
  cases rest <;> rw [compactMembers]

private theorem head_compactItems {item : Json} (items : List Json) (h : Legible item) :
    ∃ c t, compactItems (item :: items) = c :: t ∧ StartsValue c := by
  obtain ⟨c, t, he, hc⟩ := head_compactChars h
  exact ⟨c, _, by rw [compactItems_cons, he, List.cons_append], hc⟩

private theorem head_compactMembers (member : String × Json) (members : List (String × Json)) :
    ∃ t, compactMembers (member :: members) = '"' :: t := by
  obtain ⟨key, value⟩ := member
  exact ⟨_, by rw [compactMembers_cons, stringChars, List.cons_append]⟩

/-- Members whose keys denote something are those of an object. -/
theorem ofMembers_some (members : List (String × Json)) :
    ofMembers (members.map fun m => (some m.1, m.2)) = object members := by
  have keyed : (members.map fun m => (some m.1, m.2)).mapM (fun m => m.1.map (·, m.2)) = some members := by
    apply mapM_map_eq_some
    exact fun _ => rfl
  rw [ofMembers, keyed]

mutual

/-- A printed value reads back, whatever follows it that does not go on a numeral. -/
theorem readValue?_compactChars (j : Json) (h : Legible j) (rest : List Char)
    (hr : EndsNumeral rest) (fuel : Nat) (hf : 2 * (compactChars j).length ≤ fuel) :
    readValue? fuel (compactChars j ++ rest) = some (j, rest) := by
  obtain ⟨c, t, hhead, -⟩ := head_compactChars h
  have hpos : 0 < (compactChars j).length := by rw [hhead]; exact Nat.succ_pos _
  -- A part is read in two steps, one for the list that it stands in and one for itself, hence the factor.
  obtain ⟨fuel, rfl⟩ : ∃ n, fuel = n + 1 := ⟨fuel - 1, by omega⟩
  cases j with
  | null => rfl
  | bool b => cases b <;> rfl
  | int i => exact readValue?_numeral h hr
  | number x => exact readValue?_numeral h hr
  | string s => exact readValue?_string s rest fuel
  | array items =>
    rw [compactChars, List.length_cons] at hf
    rw [compactChars, List.cons_append, readValue?,
      skipBlanks_of_startsValue (by exact ⟨by decide, by decide, by decide⟩)]
    cases items with
    | nil => simp [compactItems, skipBlanks, isBlank]
    | cons item items =>
      obtain ⟨c, t, hhead, hstart⟩ := head_compactItems items h.1
      have read := readItems?_compactItems (item :: items) (by simp) h rest fuel (by omega)
      rw [hhead, List.cons_append] at read ⊢
      simp only [skipBlanks_of_startsValue hstart]
      split
      · next he => exact absurd (List.cons.inj he).1 hstart.2.1
      · rw [read]; rfl
  | object members =>
    rw [compactChars, List.length_cons] at hf
    rw [compactChars, List.cons_append, readValue?,
      skipBlanks_of_startsValue (by exact ⟨by decide, by decide, by decide⟩)]
    cases members with
    | nil => simp [compactMembers, skipBlanks, isBlank]
    | cons member members =>
      obtain ⟨t, hhead⟩ := head_compactMembers member members
      have read := readMembers?_compactMembers (member :: members) (by simp) h rest fuel (by omega)
      rw [hhead, List.cons_append] at read ⊢
      simp only [skipBlanks_of_startsValue startsValue_quote]
      split
      · next he => exact absurd (List.cons.inj he).1 (by decide)
      · rw [read, Option.map_some, ofMembers_some]
  | unusable => exact h.elim

/-- The printed items of an array read back. -/
theorem readItems?_compactItems (items : List Json) (hne : items ≠ []) (h : LegibleItems items)
    (rest : List Char) (fuel : Nat) (hf : 2 * (compactItems items).length ≤ fuel) :
    readItems? fuel (compactItems items ++ rest) = some (items, rest) := by
  cases items with
  | nil => exact absurd rfl hne
  | cons item items =>
    rw [compactItems_cons, List.length_append] at hf
    obtain ⟨fuel, rfl⟩ : ∃ n, fuel = n + 1 := by
      refine ⟨fuel - 1, ?_⟩
      cases items <;> simp only [List.length_cons] at hf <;> omega
    rw [compactItems_cons, List.append_assoc, readItems?]
    cases items with
    | nil =>
      have first := readValue?_compactChars item h.1 ([']'] ++ rest)
        (endsNumeral_of_mark rest (by simp)) fuel (by simp only [List.length_cons] at hf; omega)
      rw [first]
      simp [skipBlanks, isBlank]
    | cons next others =>
      simp only [List.length_cons] at hf
      have first := readValue?_compactChars item h.1
        (',' :: (compactItems (next :: others) ++ rest)) (endsNumeral_of_mark _ (by simp)) fuel
        (by omega)
      have others := readItems?_compactItems (next :: others) (by simp) h.2 rest fuel (by omega)
      simp only [List.cons_append, first, Option.bind_eq_bind, Option.bind_some]
      rw [skipBlanks_comma]
      simp [others]

/-- The printed members of an object read back. -/
theorem readMembers?_compactMembers (members : List (String × Json)) (hne : members ≠ [])
    (h : LegibleMembers members) (rest : List Char) (fuel : Nat)
    (hf : 2 * (compactMembers members).length ≤ fuel) :
    readMembers? fuel (compactMembers members ++ rest) =
      some (members.map fun m => (some m.1, m.2), rest) := by
  cases members with
  | nil => exact absurd rfl hne
  | cons member members =>
    obtain ⟨key, value⟩ := member
    rw [compactMembers_cons] at hf ⊢
    simp only [List.length_append, List.length_cons] at hf
    obtain ⟨fuel, rfl⟩ : ∃ n, fuel = n + 1 := ⟨fuel - 1, by omega⟩
    simp only [stringChars, List.cons_append, List.append_assoc, List.nil_append]
    rw [readMembers?, skipBlanks_of_startsValue startsValue_quote]
    simp only [stringBody_escaped, Option.bind_eq_bind, Option.bind_some, skipBlanks_colon]
    cases members with
    | nil =>
      have first := readValue?_compactChars value h.1 ('\x7d' :: rest)
        (endsNumeral_of_mark rest (by simp)) fuel (by omega)
      simp [first, skipBlanks_brace]
    | cons next others =>
      simp only [List.length_cons] at hf
      have first := readValue?_compactChars value h.1
        (',' :: (compactMembers (next :: others) ++ rest)) (endsNumeral_of_mark _ (by simp)) fuel
        (by omega)
      have others := readMembers?_compactMembers (next :: others) (by simp) h.2 rest fuel (by omega)
      simp only [List.cons_append, first, Option.bind_some, skipBlanks_comma, others]
      rfl

end

/-! ## Whole texts -/

mutual

/-- How deep arrays and objects are nested in a value. -/
def nesting : Json → Nat
  | array items => nestingItems items + 1
  | object members => nestingMembers members + 1
  | _ => 0

/-- How deep arrays and objects are nested in items. -/
def nestingItems : List Json → Nat
  | [] => 0
  | item :: rest => max (nesting item) (nestingItems rest)

/-- How deep arrays and objects are nested in the values of members. -/
def nestingMembers : List (String × Json) → Nat
  | [] => 0
  | (_, value) :: rest => max (nesting value) (nestingMembers rest)

end

mutual

/-- A value that is not nested too deeply stays as it is. -/
theorem bounded_of_nesting_le (j : Json) {levels : Nat} (h : nesting j ≤ levels) :
    bounded levels j = j := by
  cases j with
  | array items =>
    rw [nesting] at h
    obtain ⟨levels, rfl⟩ : ∃ n, levels = n + 1 := ⟨levels - 1, by omega⟩
    rw [bounded, boundedItems_of_nesting_le items (by omega)]
  | object members =>
    rw [nesting] at h
    obtain ⟨levels, rfl⟩ : ∃ n, levels = n + 1 := ⟨levels - 1, by omega⟩
    rw [bounded, boundedMembers_of_nesting_le members (by omega)]
  | _ => cases levels <;> simp [bounded]

/-- Items that are not nested too deeply stay as they are. -/
theorem boundedItems_of_nesting_le (items : List Json) {levels : Nat}
    (h : nestingItems items ≤ levels) : boundedItems levels items = items := by
  cases items with
  | nil => rw [boundedItems]
  | cons item rest =>
    rw [nestingItems] at h
    rw [boundedItems, bounded_of_nesting_le item (by omega),
      boundedItems_of_nesting_le rest (by omega)]

/-- Members that are not nested too deeply stay as they are. -/
theorem boundedMembers_of_nesting_le (members : List (String × Json)) {levels : Nat}
    (h : nestingMembers members ≤ levels) : boundedMembers levels members = members := by
  cases members with
  | nil => rw [boundedMembers]
  | cons member rest =>
    obtain ⟨key, value⟩ := member
    rw [nestingMembers] at h
    rw [boundedMembers, bounded_of_nesting_le value (by omega),
      boundedMembers_of_nesting_le rest (by omega)]

end

/-- The compact text of a value that is used as it is printed and not nested too deeply is parsed to
that value. -/
theorem parse?_compact {j : Json} (h : Legible j) (hn : nesting j ≤ levelLimit) :
    parse? (compact j) = some j := by
  have read := readValue?_compactChars j h [] endsNumeral_nil (2 * (compactChars j).length + 2)
    (by omega)
  rw [List.append_nil] at read
  have deep : parseDeep? (compact j) = some j := by
    simp only [parseDeep?, compact, String.toList_ofList, read]
    rfl
  rw [parse?, deep, Option.map_some, bounded_of_nesting_le j hn]

/-! ## First members -/

/-- What can be read of members that begin with a string reads back. -/
private theorem readMembers?_first {key value : String} {text rest : List Char} {fuel : Nat}
    {members : List (Option String × Json)}
    (h : readMembers? fuel (stringChars key ++ ':' :: (stringChars value ++ ',' :: text)) =
      some (members, rest)) : ∃ others, members = (some key, string value) :: others := by
  cases fuel with
  | zero => cases h
  | succ fuel =>
    have body : stringChars key ++ ':' :: (stringChars value ++ ',' :: text) =
        '"' :: (key.toList.flatMap escapeChar ++
          '"' :: ':' :: (stringChars value ++ ',' :: text)) := by
      simp [stringChars]
    rw [body, readMembers?, skipBlanks_of_startsValue startsValue_quote] at h
    simp only [stringBody_escaped, Option.bind_eq_bind, Option.bind_some, skipBlanks_colon] at h
    cases fuel with
    | zero => cases h
    | succ fuel =>
      rw [readValue?_string] at h
      simp only [Option.bind_some, skipBlanks_comma] at h
      obtain ⟨⟨others, _⟩, -, he⟩ := Option.bind_eq_some_iff.1 h
      cases he
      exact ⟨others, rfl⟩

private theorem ofMembers_first (key : String) (value : Json)
    (others : List (Option String × Json)) : ofMembers ((some key, value) :: others) = unusable ∨
      ∃ members, ofMembers ((some key, value) :: others) = object ((key, value) :: members) := by
  unfold ofMembers
  rw [List.mapM_cons]
  cases others.mapM fun m => m.1.map (·, m.2) with
  | none => exact .inl rfl
  | some members => exact .inr ⟨members, rfl⟩

private theorem readValue?_first {key value : String} {text rest : List Char} {fuel : Nat} {j : Json}
    (h : readValue? (fuel + 1)
        ('\x7b' :: (stringChars key ++ ':' :: (stringChars value ++ ',' :: text))) = some (j, rest)) :
    j = unusable ∨ ∃ others, j = object ((key, string value) :: others) := by
  have read {members : List (Option String × Json)} {rest : List Char}
      (h : readMembers? fuel (stringChars key ++ ':' :: (stringChars value ++ ',' :: text)) =
        some (members, rest)) : ∃ others, members = (some key, string value) :: others :=
    readMembers?_first h
  obtain ⟨t, ht⟩ : ∃ t, stringChars key ++ ':' :: (stringChars value ++ ',' :: text) = '"' :: t :=
    ⟨_, by rw [stringChars, List.cons_append]⟩
  rw [ht] at h read
  rw [readValue?, skipBlanks_of_startsValue ⟨by decide, by decide, by decide⟩] at h
  simp only [skipBlanks_of_startsValue startsValue_quote] at h
  split at h
  · next he => exact absurd (List.cons.inj he).1 (by decide)
  · obtain ⟨⟨members, _⟩, hmembers, he⟩ := Option.map_eq_some_iff.1 h
    cases he
    obtain ⟨others, rfl⟩ := read hmembers
    exact ofMembers_first _ _ _

/-- If a text can be read that begins with an object whose first member is a string, and something
follows this member, then the member reads back. -/
theorem parse?_first {text key value : String} {following : List Char} {j : Json}
    (begins : text.toList =
      '\x7b' :: (stringChars key ++ ':' :: (stringChars value ++ ',' :: following)))
    (h : parse? text = some j) :
    j = unusable ∨ ∃ others, j = object ((key, string value) :: others) := by
  obtain ⟨deep, hdeep, rfl⟩ := Option.map_eq_some_iff.1 h
  simp only [parseDeep?, begins] at hdeep
  split at hdeep
  · next read =>
    split at hdeep
    · cases hdeep
      rcases readValue?_first read with rfl | ⟨others, rfl⟩
      · exact .inl (by simp [bounded])
      · exact .inr ⟨boundedMembers 126 others, by simp [bounded, boundedMembers, levelLimit]⟩
    · cases hdeep
  · cases hdeep

end Handoff.Json
