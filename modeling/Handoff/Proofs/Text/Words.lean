import Handoff.Text.Identifier
import Mathlib.Data.List.Chain
import Mathlib.Data.List.Forall2

/-!
# How design names are cut into words

The words of a design name hold its letters and numbers and nothing else, in their order. A word goes on as
long as letters and numbers follow each other, and it ends before a capital letter only after a small letter
or a number. The identifiers that are made of the words of an ASCII name start with a letter, or with a dollar
sign and a digit, and they are empty only if there are no words.
-/

namespace Handoff

/-- What holds of all ASCII characters holds of a character that is one. -/
theorem Unicode.forall_ascii {P : Char → Prop} (h : ∀ n < 128, P (Char.ofNat n)) {c : Char}
    (ascii : c.toNat < 128) : P c := by
  have := h c.toNat ascii
  rwa [Char.ofNat_toNat] at this

namespace Text

open Unicode

variable {c d : Char} {s before after : List Char} {ws : List (List Char)}

/-! ## Cuts -/

/-- Whether two characters that follow each other in a name stand in one word. -/
def joined (c d : Char) : Bool :=
  isAlphanumeric c && isAlphanumeric d && !(endsLow c && isUppercase d)

/-- Whether a character stands in one word with the first of those that follow it. -/
def joinsNext (c : Char) (s : List Char) : Bool := s.head?.any (joined c)

/-- Joined characters are letters or numbers. -/
theorem isAlphanumeric_of_joined (h : joined c d = true) :
    isAlphanumeric c = true ∧ isAlphanumeric d = true := by
  simp only [joined, Bool.and_eq_true] at h
  exact h.1

/-- How a name is cut, read from its end: a letter or a number extends the word that follows it, or is a word
of its own. -/
inductive Cuts : List Char → List (List Char) → Prop
  | nil : Cuts [] []
  | skip {c : Char} {s : List Char} {ws : List (List Char)} :
      isAlphanumeric c = false → Cuts s ws → Cuts (c :: s) ws
  | start {c : Char} {s : List Char} {ws : List (List Char)} :
      isAlphanumeric c = true → joinsNext c s = false → Cuts s ws → Cuts (c :: s) ([c] :: ws)
  | extend {c : Char} {s w : List Char} {ws : List (List Char)} :
      isAlphanumeric c = true → joinsNext c s = true → Cuts s (w :: ws) → Cuts (c :: s) ((c :: w) :: ws)

namespace Cuts

/-- The words hold the letters and numbers of the name in their order. -/
theorem flatten (h : Cuts s ws) : ws.flatten = s.filter isAlphanumeric := by
  induction h with
  | nil => rfl
  | skip other _ ih => rw [ih, List.filter_cons_of_neg (by simp [other])]
  | start letter _ _ ih =>
    rw [List.filter_cons_of_pos letter, ← ih]
    rfl
  | extend letter _ _ ih =>
    rw [List.filter_cons_of_pos letter, ← ih]
    rfl

/-- No word is empty. -/
theorem nil_notMem (h : Cuts s ws) : [] ∉ ws := by
  induction h with
  | nil => exact List.not_mem_nil
  | skip _ _ ih => exact ih
  | start _ _ _ ih => simpa using ih
  | extend _ _ _ ih =>
    rw [List.mem_cons, not_or] at ih ⊢
    exact ⟨(List.cons_ne_nil _ _).symm, ih.2⟩

/-- There are no words exactly if there are neither letters nor numbers. -/
theorem eq_nil_iff (h : Cuts s ws) : ws = [] ↔ ∀ c ∈ s, isAlphanumeric c = false := by
  have none : ws.flatten = [] ↔ ∀ c ∈ s, isAlphanumeric c = false := by
    rw [h.flatten, List.filter_eq_nil_iff]
    simp
  rw [← none, List.flatten_eq_nil_iff]
  constructor
  · rintro rfl w ⟨⟩
  · intro empty
    refine List.eq_nil_iff_forall_not_mem.2 fun w hw => h.nil_notMem ?_
    rwa [← empty w hw]

/-- Words hold letters and numbers only. -/
theorem isAlphanumeric_of_mem (h : Cuts s ws) {w : List Char} (hw : w ∈ ws) :
    ∀ c ∈ w, isAlphanumeric c = true := by
  intro c hc
  have mem : c ∈ ws.flatten := List.mem_flatten_of_mem hw hc
  rw [h.flatten] at mem
  exact (List.mem_filter.1 mem).2

end Cuts

private theorem flushWord_eq {pending : List Char} (unfinished : pending ≠ []) :
    flushWord pending = [pending.reverse] := by
  cases pending with
  | nil => exact absurd rfl unfinished
  | cons c rest => rfl

private theorem wordsFrom_append {pending : List Char} (unfinished : pending ≠ []) (before : List Char)
    (low : Bool) (s : List Char) :
    wordsFrom (pending ++ before) low s = (wordsFrom pending low s).modifyHead (before.reverse ++ ·) := by
  have longer : pending ++ before ≠ [] := List.append_ne_nil_of_left_ne_nil unfinished before
  -- Whatever ends the first word, what is still to come does not see `before`.
  induction s generalizing pending low with
  | nil => simp [wordsFrom, flushWord_eq, unfinished, longer]
  | cons c rest ih =>
    have continued := ih (List.cons_ne_nil c pending) (endsLow c) (List.cons_ne_nil c (pending ++ before))
    rw [wordsFrom, wordsFrom, flushWord_eq unfinished, flushWord_eq longer,
      List.isEmpty_eq_false_iff.2 unfinished, List.isEmpty_eq_false_iff.2 longer]
    split
    · split
      · simp
      · exact continued
    · simp

private theorem words_cons (c : Char) (s : List Char) :
    words (c :: s) = if isAlphanumeric c then wordsFrom [c] (endsLow c) s else words s := by
  simp [words, wordsFrom, flushWord]

/-- A letter or a number extends the first word of what follows it, if the two are joined, and is a word of its
own otherwise. -/
private theorem words_cons_of_isAlphanumeric (letter : isAlphanumeric c = true) (s : List Char) :
    words (c :: s) = if joinsNext c s then (words s).modifyHead (c :: ·) else [c] :: words s := by
  rw [words_cons, if_pos letter]
  cases s with
  | nil => rfl
  | cons d s =>
    rw [wordsFrom, words_cons]
    by_cases next : isAlphanumeric d = true
    · have ends : (isUppercase d && endsLow c && !List.isEmpty [c]) = !joinsNext c (d :: s) := by
        simp [joinsNext, joined, letter, next, Bool.and_comm]
      rw [if_pos next, if_pos next, ends]
      cases joinsNext c (d :: s) with
      | true => exact wordsFrom_append (List.cons_ne_nil d []) [c] _ s
      | false => rfl
    · have apart : joinsNext c (d :: s) = false := by simp [joinsNext, joined, next]
      rw [if_neg next, if_neg next, apart]
      rfl

/-- The words of a name cut it. -/
theorem cuts_words (s : List Char) : Cuts s (words s) := by
  induction s with
  | nil => exact .nil
  | cons c s ih =>
    cases letter : isAlphanumeric c with
    | false =>
      rw [words_cons, letter]
      exact .skip letter ih
    | true =>
      rw [words_cons_of_isAlphanumeric letter]
      split
      · next joins =>
        obtain ⟨d, first, both⟩ := (Option.any_eq_true _ _).1 joins
        obtain ⟨rest, rfl⟩ := List.head?_eq_some_iff.1 first
        have some : words (d :: rest) ≠ [] := by
          intro empty
          have none := ih.eq_nil_iff.1 empty d List.mem_cons_self
          simp [(isAlphanumeric_of_joined both).2] at none
        obtain ⟨w, ws, cut⟩ := List.exists_cons_of_ne_nil some
        rw [cut] at ih ⊢
        exact .extend letter joins ih
      · next apart => exact .start letter (by simpa using apart) ih

/-! ## The word into which a character falls -/

/-- The number of the word that holds a character, where words and their characters are counted from zero. -/
def wordNumber : List (List Char) → Nat → Nat
  | [], _ => 0
  | w :: ws, n => if n < w.length then 0 else wordNumber ws (n - w.length) + 1

/-- The number of the word into which the letter or number of a name falls that stands behind `before`. In the
words it comes behind the letters and numbers of `before`. -/
def wordAfter (ws : List (List Char)) (before : List Char) : Nat :=
  wordNumber ws (before.countP isAlphanumeric)

private theorem wordAfter_skip (other : isAlphanumeric c = false) (ws : List (List Char))
    (before : List Char) : wordAfter ws (c :: before) = wordAfter ws before := by
  simp [wordAfter, other]

private theorem wordAfter_start (letter : isAlphanumeric c = true) (ws : List (List Char))
    (before : List Char) : wordAfter ([c] :: ws) (c :: before) = wordAfter ws before + 1 := by
  simp [wordAfter, wordNumber, letter]

private theorem wordAfter_extend (letter : isAlphanumeric c = true) (w : List Char) (ws : List (List Char))
    (before : List Char) : wordAfter ((c :: w) :: ws) (c :: before) = wordAfter (w :: ws) before := by
  simp [wordAfter, wordNumber, letter]

private theorem isAlphanumeric_of_isChain {l : List Char} (h : (l ++ [d]).IsChain (joined · ·)) :
    ∀ c ∈ l, isAlphanumeric c = true := by
  intro c hc
  obtain ⟨front, back, rfl⟩ := List.append_of_mem hc
  rw [List.append_assoc] at h
  obtain ⟨e, rest, next⟩ : ∃ e rest, back ++ [d] = e :: rest :=
    List.exists_cons_of_ne_nil (List.append_ne_nil_of_right_ne_nil _ (List.cons_ne_nil d []))
  have chain := h.right_of_append
  rw [List.cons_append, next] at chain
  exact (isAlphanumeric_of_joined (List.isChain_cons_cons.1 chain).1).1

namespace Cuts

private theorem wordAfter_nil (h : Cuts s ws) : wordAfter ws [] = 0 := by
  cases ws with
  | nil => rfl
  | cons w ws =>
    have word : w ≠ [] := fun empty => h.nil_notMem (empty ▸ List.mem_cons_self)
    simp [wordAfter, wordNumber, List.length_pos_iff.2 word]

/-- The word into which a letter or a number falls holds it, behind those before it that no earlier word
holds. -/
theorem exists_wordAfter (h : Cuts (before ++ c :: after) ws) (letter : isAlphanumeric c = true) :
    ∃ earlier front back later, ws = earlier ++ (front ++ c :: back) :: later ∧
      wordAfter ws before = earlier.length ∧ earlier.flatten ++ front = before.filter isAlphanumeric := by
  induction before generalizing ws with
  | nil =>
    have first := h.wordAfter_nil
    cases h with
    | skip other => simp [letter] at other
    | start _ _ _ => exact ⟨[], [], [], _, rfl, first, rfl⟩
    | extend _ _ _ => exact ⟨[], [], _, _, rfl, first, rfl⟩
  | cons b before ih =>
    rw [List.cons_append] at h
    cases h with
    | skip other rest =>
      rw [wordAfter_skip other, List.filter_cons_of_neg (by simp [other])]
      exact ih rest
    | start first _ rest =>
      obtain ⟨earlier, front, back, later, rfl, number, held⟩ := ih rest
      refine ⟨[b] :: earlier, front, back, later, rfl, ?_, ?_⟩
      · rw [wordAfter_start first, number, List.length_cons]
      · rw [List.filter_cons_of_pos first, ← held]
        rfl
    | extend first _ rest =>
      obtain ⟨earlier, front, back, later, cut, number, held⟩ := ih rest
      rw [wordAfter_extend first, number, List.filter_cons_of_pos first, ← held]
      -- The word that is extended is the one of the character or an earlier one.
      cases earlier with
      | nil =>
        cases cut
        exact ⟨[], b :: front, back, _, rfl, rfl, rfl⟩
      | cons w earlier =>
        cases cut
        exact ⟨(b :: _) :: earlier, front, back, later, rfl, rfl, rfl⟩

private theorem wordAfter_nil_eq_iff {mid : List Char} (h : Cuts (c :: (mid ++ d :: after)) ws)
    (letter : isAlphanumeric c = true) :
    wordAfter ws [] = wordAfter ws (c :: mid) ↔ (c :: mid ++ [d]).IsChain (joined · ·) := by
  rw [h.wordAfter_nil]
  induction mid generalizing c ws with
  | nil =>
    cases h with
    | skip other => simp [letter] at other
    | start _ apart _ => simpa [wordAfter_start letter, joinsNext] using apart
    | extend _ joins rest => simpa [wordAfter_extend letter, rest.wordAfter_nil, joinsNext] using joins
  | cons e mid ih =>
    cases h with
    | skip other => simp [letter] at other
    | start _ apart _ =>
      have apart : joined c e = false := by simpa [joinsNext] using apart
      simp [wordAfter_start letter, apart]
    | extend _ joins rest =>
      have joins : joined c e = true := by simpa [joinsNext] using joins
      rw [wordAfter_extend letter, ih rest (isAlphanumeric_of_joined joins).2]
      simp [joins]

/-- Two letters or numbers of a name are in one word exactly if all from the one to the other are joined. -/
theorem wordAfter_eq_iff {mid : List Char} (h : Cuts (before ++ c :: (mid ++ d :: after)) ws)
    (letter : isAlphanumeric c = true) :
    wordAfter ws before = wordAfter ws (before ++ c :: mid) ↔ (c :: mid ++ [d]).IsChain (joined · ·) := by
  -- What stands before the two makes both numbers higher by the same.
  induction before generalizing ws with
  | nil => exact h.wordAfter_nil_eq_iff letter
  | cons b before ih =>
    rw [List.cons_append]
    cases h with
    | skip other rest => rw [wordAfter_skip other, wordAfter_skip other, ih rest]
    | start first _ rest =>
      rw [wordAfter_start first, wordAfter_start first, Nat.add_right_cancel_iff, ih rest]
    | extend first _ rest => rw [wordAfter_extend first, wordAfter_extend first, ih rest]

end Cuts

/-- What it means that a name has these words: they hold its letters and numbers in their order, none is empty,
and each letter or number falls into one of them. Two neighbours fall into different words exactly if the first
is small or a number and the second a capital, and characters with another one between them always do. -/
structure WordsOf (s : List Char) (ws : List (List Char)) : Prop where
  letters : ws.flatten = s.filter isAlphanumeric
  nonempty : ∀ w ∈ ws, w ≠ []
  placed : ∀ before c after, s = before ++ c :: after → isAlphanumeric c = true →
    ∃ earlier front back later, ws = earlier ++ (front ++ c :: back) :: later ∧
      wordAfter ws before = earlier.length ∧ earlier.flatten ++ front = before.filter isAlphanumeric
  neighbours : ∀ before c d after, s = before ++ c :: d :: after →
    isAlphanumeric c = true → isAlphanumeric d = true →
    (wordAfter ws before ≠ wordAfter ws (before ++ [c]) ↔
      (isLowercase c = true ∨ isNumeric c = true) ∧ isUppercase d = true)
  separated : ∀ before c between d after, s = before ++ c :: (between ++ d :: after) →
    isAlphanumeric c = true → isAlphanumeric d = true → (∃ e ∈ between, isAlphanumeric e = false) →
    wordAfter ws before ≠ wordAfter ws (before ++ c :: between)

/-- Whatever cuts a name are its words. -/
theorem Cuts.wordsOf (h : Cuts s ws) : WordsOf s ws where
  letters := h.flatten
  nonempty w hw empty := h.nil_notMem (empty ▸ hw)
  placed := by
    rintro before c after rfl letter
    exact h.exists_wordAfter letter
  neighbours := by
    rintro before c d after rfl first second
    have both : joined c d = !(endsLow c && isUppercase d) := by simp [joined, first, second]
    have same : wordAfter ws before = wordAfter ws (before ++ [c]) ↔ ([c] ++ [d]).IsChain (joined · ·) :=
      h.wordAfter_eq_iff first
    rw [Ne, same, List.singleton_append, List.isChain_pair, both]
    simp only [endsLow, Bool.not_eq_true', Bool.not_eq_false, Bool.and_eq_true, Bool.or_eq_true]
  separated := by
    rintro before c between d after rfl first - ⟨e, he, other⟩ same
    have all := isAlphanumeric_of_isChain ((h.wordAfter_eq_iff first).1 same)
    rw [all e (List.mem_cons_of_mem c he)] at other
    cases other

/-! ## Identifiers of ASCII names -/

/-- Whether a text is another one with some of its letters in the other case. -/
def Recased (s t : List Char) : Prop :=
  List.Forall₂ (fun c c' => c' = c.toLower ∨ c' = c.toUpper) s t

private theorem recased_map_toLower (s : List Char) : Recased s (s.map Char.toLower) :=
  List.forall₂_map_right_iff.2 (List.forall₂_same.2 fun _ _ => .inl rfl)

private theorem recased_lowercase (ascii : ∀ c ∈ s, c.toNat < 128) : Recased s (lowercase s) := by
  rw [lowercase, lowercaseAfter_of_ascii [] ascii]
  exact recased_map_toLower s

private theorem recased_capitalize (ascii : ∀ c ∈ s, c.toNat < 128) : Recased s (capitalize s) := by
  cases s with
  | nil => exact .nil
  | cons c rest =>
    have others : rest.flatMap lowerChars = rest.map Char.toLower := by
      rw [← List.flatMap_singleton' (rest.map Char.toLower), List.flatMap_map]
      exact List.flatMap_congr fun d hd => lowerChars_of_ascii (ascii d (List.mem_cons_of_mem c hd))
    rw [capitalize, upperChars_of_ascii (ascii c List.mem_cons_self), others]
    exact .cons (.inr rfl) (recased_map_toLower rest)

private theorem recased_flatMap_capitalize (ascii : ∀ c ∈ ws.flatten, c.toNat < 128) :
    Recased ws.flatten (ws.flatMap capitalize) := by
  induction ws with
  | nil => exact .nil
  | cons w ws ih =>
    rw [List.flatten_cons, List.flatMap_cons]
    rw [List.flatten_cons, List.forall_mem_append] at ascii
    exact List.rel_append (recased_capitalize ascii.1) (ih ascii.2)

private theorem recased_camelOfWords (ascii : ∀ c ∈ ws.flatten, c.toNat < 128) :
    Recased ws.flatten (camelOfWords ws) := by
  cases ws with
  | nil => exact .nil
  | cons w ws =>
    rw [List.flatten_cons, List.forall_mem_append] at ascii
    exact List.rel_append (recased_lowercase ascii.1) (recased_flatMap_capitalize ascii.2)

private theorem Recased.isAlphanum {t : List Char} (h : Recased s t) (ascii : ∀ c ∈ s, c.toNat < 128)
    (plain : ∀ c ∈ s, c.isAlphanum = true) : ∀ c ∈ t, c.isAlphanum = true := by
  have kept {c : Char} (ascii : c.toNat < 128) :
      c.isAlphanum = true → c.toLower.isAlphanum = true ∧ c.toUpper.isAlphanum = true :=
    forall_ascii
      (P := fun c => c.isAlphanum = true → c.toLower.isAlphanum = true ∧ c.toUpper.isAlphanum = true)
      (by decide +kernel) ascii
  induction h with
  | nil => exact plain
  | cons first _ ih =>
    rw [List.forall_mem_cons] at ascii plain ⊢
    obtain ⟨small, capital⟩ := kept ascii.1 plain.1
    refine ⟨?_, ih ascii.2 plain.2⟩
    rcases first with rfl | rfl
    · exact small
    · exact capital

/-- What the identifier of an ASCII name is: nothing, or a dollar sign and a digit, or a letter, and behind them
letters and digits. -/
inductive Guarded : List Char → Prop
  | empty : Guarded []
  | number {d : Char} {rest : List Char} :
      d.isDigit = true → (∀ c ∈ rest, c.isAlphanum = true) → Guarded ('$' :: d :: rest)
  | letter {c : Char} {rest : List Char} :
      c.isAlpha = true → (∀ c ∈ rest, c.isAlphanum = true) → Guarded (c :: rest)

private theorem guarded_guardDigit (plain : ∀ c ∈ s, c.isAlphanum = true) : Guarded (guardDigit s) := by
  cases s with
  | nil => exact .empty
  | cons c rest =>
    obtain ⟨first, others⟩ := List.forall_mem_cons.1 plain
    rw [guardDigit]
    split
    · next digit => exact .number digit others
    · next noDigit =>
      refine .letter ?_ others
      simpa [Char.isAlphanum, noDigit] using first

private theorem guardDigit_eq_nil_iff : guardDigit s = [] ↔ s = [] := by
  cases s with
  | nil => rfl
  | cons c rest =>
    rw [guardDigit]
    split <;> simp

/-- What makes an identifier of the letters and digits of an ASCII name is guarded, and empty if there are
none. -/
private theorem guarded_of_recased {t : List Char} (ascii : ∀ c ∈ s, c.toNat < 128)
    (h : Recased (s.filter isAlphanumeric) t) :
    Guarded (guardDigit t) ∧ (guardDigit t = [] ↔ ∀ c ∈ s, isAlphanumeric c = false) := by
  have letters : ∀ c ∈ s.filter isAlphanumeric, c.toNat < 128 ∧ c.isAlphanum = true := by
    intro c hc
    obtain ⟨mem, letter⟩ := List.mem_filter.1 hc
    exact ⟨ascii c mem, isAlphanumeric_of_ascii (ascii c mem) ▸ letter⟩
  refine ⟨guarded_guardDigit (h.isAlphanum (fun c hc => (letters c hc).1) fun c hc => (letters c hc).2), ?_⟩
  rw [guardDigit_eq_nil_iff, ← List.length_eq_zero_iff, ← h.length_eq, List.length_eq_zero_iff,
    List.filter_eq_nil_iff]
  simp

/-- The words of a name are its letters and numbers, cut where another character stands and where a capital
follows a small letter or a number. Both identifiers of an ASCII name are guarded, and they are empty only if it
has neither letters nor digits. -/
theorem splitWords_cut (name : String) :
    WordsOf name.toList ((splitWords name).map String.toList) ∧
      ((∀ c ∈ name.toList, c.toNat < 128) →
        ∀ identifier ∈ [camelIdentifier name, pascalIdentifier name],
          Guarded identifier.toList ∧ (identifier = "" ↔ ∀ c ∈ name.toList, isAlphanumeric c = false)) := by
  have cuts := cuts_words name.toList
  have listed : (splitWords name).map String.toList = words name.toList := by
    simp [splitWords, Function.comp_def]
  refine ⟨listed ▸ cuts.wordsOf, fun ascii => ?_⟩
  have small : ∀ c ∈ (words name.toList).flatten, c.toNat < 128 := by
    rw [cuts.flatten]
    exact fun c hc => ascii c (List.mem_filter.1 hc).1
  have camel := recased_camelOfWords small
  have pascal := recased_flatMap_capitalize small
  rw [cuts.flatten] at camel pascal
  simp only [List.forall_mem_cons, List.not_mem_nil, false_implies, implies_true, and_true,
    camelIdentifier, pascalIdentifier, String.toList_ofList, String.ofList_eq_empty_iff]
  exact ⟨guarded_of_recased ascii camel, guarded_of_recased ascii pascal⟩

/-- A number, a small word and a capital word: they are told apart at the blank and at the capital, and nowhere
else. -/
theorem splitWords_cut_hasIcon :
    let ws := (splitWords "2 hasIcon").map String.toList
    splitWords "2 hasIcon" = ["2", "has", "Icon"] ∧
      wordAfter ws [] ≠ wordAfter ws ['2', ' '] ∧
      wordAfter ws ['2', ' ', 'h', 'a'] ≠ wordAfter ws ['2', ' ', 'h', 'a', 's'] ∧
      wordAfter ws ['2', ' '] = wordAfter ws ['2', ' ', 'h'] ∧
      camelIdentifier "2 hasIcon" = "$2HasIcon" ∧ Guarded (camelIdentifier "2 hasIcon").toList := by
  intro ws
  obtain ⟨words, identifiers⟩ := splitWords_cut "2 hasIcon"
  have text : "2 hasIcon".toList = ['2', ' ', 'h', 'a', 's', 'I', 'c', 'o', 'n'] := by decide +kernel
  have ascii : ∀ c ∈ "2 hasIcon".toList, c.toNat < 128 := by simp [text]
  rw [text] at words
  have blank := words.separated [] '2' [' '] 'h' _ rfl (by decide) (by decide) ⟨' ', by decide, by decide⟩
  have capital := words.neighbours ['2', ' ', 'h', 'a'] 's' 'I' _ rfl (by decide) (by decide)
  have inside := words.neighbours ['2', ' '] 'h' 'a' _ rfl (by decide) (by decide)
  exact ⟨by decide +kernel, blank, capital.2 (by decide), Decidable.not_not.1 (mt inside.1 (by decide)),
    by decide +kernel, (identifiers ascii _ List.mem_cons_self).1⟩

end Text
end Handoff
