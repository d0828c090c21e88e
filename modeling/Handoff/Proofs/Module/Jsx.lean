import Handoff.Proofs.Json.Reading
import Mathlib.Data.List.DropRight
import Mathlib.Data.List.Forall2
import Mathlib.Data.List.TakeWhile

/-!
# Text between tags

What the text between the tags of an element denotes. Plain text is cut into lines; blanks go at the end of every
line but the last and at the front of every line but the first, lines that are empty then are dropped, and the
others are joined with blanks. In what is left, references stand for characters: they begin with an ampersand and
end with a semicolon. Which characters part lines, which are blanks, and what the names of references stand for is
left open but for line feeds, blanks and tabs. A text between quotes and braces denotes what it does as JSON. A text
of one line denotes itself exactly if it holds no line break, no reference and, unless the tags stand on its line,
no blank at its ends.
-/

namespace Handoff.Jsx

/-- How plain text is read. -/
structure Rules where
  /-- Whether a character parts lines. -/
  isBreak : Char → Bool
  /-- Whether a character goes at the ends of lines. -/
  isBlank : Char → Bool
  /-- What the name of a reference stands for. -/
  names : List Char → Option Char
  isBreak_feed : isBreak '\n' = true
  isBlank_space : isBlank ' ' = true
  isBlank_tab : isBlank '\t' = true
  isBreak_of_isBlank : ∀ c, isBlank c = true → isBreak c = false

/-- Lines joined with blanks, as far as they are not empty. -/
def join (lines : List (List Char)) : List Char := [' '].intercalate (lines.filter (!·.isEmpty))

/-- Whether a character is one of plain text. -/
def isPlain (c : Char) : Bool := !(['\x7b', '\x7d', '<', '>'].contains c)

/-! ## Joined lines -/

private theorem join_cons (line : List Char) (rest : List (List Char)) :
    join (line :: rest) =
      if line = [] then join rest else if join rest = [] then line else line ++ ' ' :: join rest := by
  by_cases empty : line = []
  · simp [join, empty]
  · rw [if_neg empty, join, List.filter_cons_of_pos (by simpa using empty), join]
    cases some : rest.filter (!·.isEmpty) with
    | nil => simp [List.intercalate]
    | cons next others =>
      have filled : next ≠ [] := by
        have mem : next ∈ rest.filter (!·.isEmpty) := by simp [some]
        simpa using (List.mem_filter.1 mem).2
      have more : [' '].intercalate (next :: others) ≠ [] := by
        cases others <;> simp [List.intercalate, filled]
      rw [if_neg more, List.intercalate_cons_cons, List.append_assoc, List.singleton_append]

/-- The length of lines with the line breaks that end them. -/
private def size : List (List Char) → Nat
  | [] => 0
  | line :: rest => line.length + 1 + size rest

private theorem length_join_le (lines : List (List Char)) : (join lines).length ≤ size lines - 1 := by
  induction lines with
  | nil => exact Nat.zero_le _
  | cons line rest ih =>
    rw [join_cons, size]
    split
    · omega
    · split
      · omega
      · next some =>
        have filled : 0 < (join rest).length := List.length_pos_iff.2 some
        rw [List.length_append, List.length_cons]
        omega

namespace Rules

/-- A line without blanks at its front. -/
def trimFront (r : Rules) (line : List Char) : List Char := line.dropWhile r.isBlank

/-- A line without blanks at its end. -/
def trimBack (r : Rules) (line : List Char) : List Char := line.rdropWhile r.isBlank

/-- A line without blanks at its ends. -/
def trim (r : Rules) (line : List Char) : List Char := r.trimBack (r.trimFront line)

/-- The lines after the first one, trimmed. -/
def trimmedLater (r : Rules) : List (List Char) → List (List Char)
  | [] => []
  | [last] => [r.trimFront last]
  | line :: rest => r.trim line :: r.trimmedLater rest

/-- The lines of a text, trimmed. -/
def trimmedLines (r : Rules) : List (List Char) → List (List Char)
  | [] => []
  | [only] => [only]
  | first :: rest => r.trimBack first :: r.trimmedLater rest

/-- The characters of plain text, with references as they are written. -/
def joined (r : Rules) (text : List Char) : List Char := join (r.trimmedLines (text.splitOnP r.isBreak))

/-- What the reference at the front of a text stands for, and what follows it. -/
def reference? (r : Rules) : List Char → Option (Char × List Char)
  | '&' :: rest =>
    match rest.dropWhile (· != ';') with
    | [] => none
    | _ :: after => (r.names (rest.takeWhile (· != ';'))).map (·, after)
  | _ => none

/-- A reference is an ampersand, a name and a semicolon. -/
theorem reference?_eq_some_iff {r : Rules} {text after : List Char} {c : Char} :
    r.reference? text = some (c, after) ↔
      ∃ name, text = '&' :: (name ++ ';' :: after) ∧ ';' ∉ name ∧ r.names name = some c := by
  constructor
  · intro h
    unfold reference? at h
    split at h
    · next rest =>
      split at h
      · cases h
      · next x _ split =>
        obtain ⟨_, named, same⟩ := Option.map_eq_some_iff.1 h
        cases same
        obtain rfl : x = ';' := by
          have first := List.head?_dropWhile_not (· != ';') rest
          rw [split] at first
          simpa using first
        refine ⟨_, ?_, fun mem => ?_, named⟩
        · rw [← split, List.takeWhile_append_dropWhile]
        · exact absurd (List.mem_takeWhile_imp mem) (by decide)
    · cases h
  · rintro ⟨name, rfl, flat, named⟩
    have plain : ∀ x ∈ name, (x != ';') = true := by
      intro x hx
      have other : x ≠ ';' := fun same => flat (same ▸ hx)
      simpa using other
    simp [reference?, List.dropWhile_append_of_pos plain, List.takeWhile_append_of_pos plain, named]

/-- A text with characters in the place of references. -/
def decode (r : Rules) : List Char → List Char
  | [] => []
  | c :: rest =>
    match h : r.reference? (c :: rest) with
    | some (x, after) =>
      have : after.length < rest.length + 1 := by
        obtain ⟨name, same, -⟩ := reference?_eq_some_iff.1 h
        have := congrArg List.length same
        simp only [List.length_cons, List.length_append] at this
        omega
      x :: r.decode after
    | none => c :: r.decode rest
termination_by text => text.length

/-- What plain text denotes. -/
def plainText (r : Rules) (text : List Char) : List Char := r.decode (r.joined text)

/-- What children denote as a text, if they are plain text, texts between quotes and braces, and tags; `fuel`
bounds how many there are. -/
def childrenFrom (r : Rules) : Nat → List Char → Option (List Char)
  | 0, _ => none
  | fuel + 1, source =>
    let text := r.plainText (source.takeWhile isPlain)
    match source.dropWhile isPlain with
    | [] => some text
    | '\x7b' :: '"' :: literal =>
      match Json.stringBody literal with
      | some (some value, '\x7d' :: rest) => (r.childrenFrom fuel rest).map (text ++ value.toList ++ ·)
      | _ => none
    | '<' :: tag =>
      match tag.dropWhile (· != '>') with
      | [] => none
      | _ :: rest => (r.childrenFrom fuel rest).map (text ++ ·)
    | _ => none

/-- What the children of an element denote as a text. -/
def children? (r : Rules) (source : List Char) : Option (List Char) :=
  r.childrenFrom (source.length + 1) source

variable {r : Rules} {text front back line : List Char} {c : Char}

/-! ## References -/

/-- Whether a reference stands in a text. -/
def Refers (r : Rules) (text : List Char) : Prop :=
  ∃ before name after, text = before ++ '&' :: (name ++ ';' :: after) ∧ ';' ∉ name ∧ (r.names name).isSome

/-- A text in which a reference stands holds a semicolon. -/
theorem Refers.semicolon_mem (h : r.Refers text) : ';' ∈ text := by
  obtain ⟨before, name, after, rfl, -⟩ := h
  simp

private theorem refers_cons : r.Refers (c :: text) ↔
    (r.reference? (c :: text)).isSome ∨ r.Refers text := by
  have front : (r.reference? (c :: text)).isSome ↔
      ∃ name after, c :: text = '&' :: (name ++ ';' :: after) ∧ ';' ∉ name ∧ (r.names name).isSome := by
    simp only [Option.isSome_iff_exists, Prod.exists, reference?_eq_some_iff]
    grind
  rw [front]
  constructor
  · rintro ⟨before, name, after, split, flat, named⟩
    cases before with
    | nil => exact .inl ⟨name, after, split, flat, named⟩
    | cons x before =>
      obtain ⟨-, split⟩ := List.cons_eq_cons.1 split
      exact .inr ⟨before, name, after, split, flat, named⟩
  · rintro (⟨name, after, split, flat, named⟩ | ⟨before, name, after, rfl, flat, named⟩)
    · exact ⟨[], name, after, split, flat, named⟩
    · exact ⟨c :: before, name, after, rfl, flat, named⟩

private theorem decode_of_some {after : List Char} {x : Char} (h : r.reference? (c :: text) = some (x, after)) :
    r.decode (c :: text) = x :: r.decode after := by
  rw [decode]
  split
  · next found =>
    rw [h] at found
    cases found
    rfl
  · next missing =>
    rw [h] at missing
    cases missing

private theorem decode_of_none (h : r.reference? (c :: text) = none) :
    r.decode (c :: text) = c :: r.decode text := by
  rw [decode]
  split
  · next found =>
    rw [h] at found
    cases found
  · rfl

/-- Decoding leaves a text as it is where no reference stands in it, and else it makes the text shorter. -/
theorem decode_cases (r : Rules) (text : List Char) :
    ¬ r.Refers text ∧ r.decode text = text ∨
      r.Refers text ∧ (r.decode text).length < text.length := by
  -- Decoding a reference leaves one character for at least two, so nothing can make up for it.
  induction text using decode.induct r with
  | case1 =>
    refine .inl ⟨?_, by rw [decode]⟩
    rintro ⟨before, name, after, split, -⟩
    cases before <;> cases split
  | case2 c rest x after h _ ih =>
    have shorter : after.length + 1 < (c :: rest).length := by
      obtain ⟨name, same, -⟩ := reference?_eq_some_iff.1 h
      simp only [same, List.length_cons, List.length_append]
      omega
    have le : (r.decode after).length ≤ after.length := by
      rcases ih with ⟨-, same⟩ | ⟨-, less⟩
      · rw [same]
      · exact less.le
    refine .inr ⟨refers_cons.2 (.inl (by rw [h]; rfl)), ?_⟩
    rw [decode_of_some h]
    exact Nat.lt_of_le_of_lt (Nat.succ_le_succ le) shorter
  | case3 c rest h ih =>
    have later : r.Refers (c :: rest) ↔ r.Refers rest := by
      rw [refers_cons, h]
      simp
    rw [later, decode_of_none h]
    rcases ih with ⟨none, same⟩ | ⟨refers, less⟩
    · exact .inl ⟨none, by rw [same]⟩
    · exact .inr ⟨refers, Nat.succ_lt_succ less⟩

/-! ## Lines -/

private theorem size_splitOnP (text : List Char) : size (text.splitOnP r.isBreak) = text.length + 1 := by
  induction text with
  | nil => rfl
  | cons c rest ih =>
    rw [List.splitOnP_cons_eq_if_modifyHead]
    split
    · simp only [size, List.length_nil, List.length_cons] at ih ⊢
      omega
    · cases pieces : rest.splitOnP r.isBreak with
      | nil => exact absurd pieces (List.splitOnP_ne_nil _ _)
      | cons piece others =>
        simp only [pieces, size, List.modifyHead_cons, List.length_cons] at ih ⊢
        omega

/-! ## Trimmed lines -/

/-- Whether lines are parts of the lines of a text. -/
def Trims (r : Rules) (kept : List (List Char)) (text : List Char) : Prop :=
  List.Forall₂ (· <:+: ·) kept (text.splitOnP r.isBreak)

private theorem isInfix_trim (line : List Char) : r.trim line <:+: line :=
  (List.rdropWhile_prefix r.isBlank _).isInfix.trans (List.dropWhile_suffix _).isInfix

private theorem forall₂_trimmedLater (lines : List (List Char)) :
    List.Forall₂ (· <:+: ·) (r.trimmedLater lines) lines := by
  induction lines with
  | nil => exact .nil
  | cons line rest ih =>
    cases rest with
    | nil => exact .cons (List.dropWhile_suffix _).isInfix .nil
    | cons next others => exact .cons (isInfix_trim line) ih

private theorem trims_trimmedLines (text : List Char) : r.Trims (r.trimmedLines (text.splitOnP r.isBreak)) text := by
  rw [Trims]
  cases text.splitOnP r.isBreak with
  | nil => exact .nil
  | cons first rest =>
    cases rest with
    | nil => exact .cons (List.infix_refl _) .nil
    | cons next others => exact .cons (List.rdropWhile_prefix r.isBlank _).isInfix (forall₂_trimmedLater _)

private theorem trims_map_trim (text : List Char) : r.Trims ((text.splitOnP r.isBreak).map r.trim) text :=
  List.forall₂_map_left_iff.2 (List.forall₂_same.2 fun line _ => isInfix_trim line)

variable {kept : List (List Char)}

private theorem Trims.length_join_le (trims : r.Trims kept text) : (join kept).length ≤ text.length := by
  have le {kept lines : List (List Char)} (h : List.Forall₂ (· <:+: ·) kept lines) : size kept ≤ size lines := by
    induction h with
    | nil => exact Nat.le_refl _
    | cons part _ ih =>
      have := part.length_le
      simp only [size] at ih ⊢
      omega
  have pieces := le trims
  have joined := Jsx.length_join_le kept
  rw [size_splitOnP] at pieces
  omega

private theorem isBreak_of_mem_splitOnP (h : line ∈ text.splitOnP r.isBreak) :
    ∀ c ∈ line, r.isBreak c = false := by
  induction text generalizing line with
  | nil =>
    obtain rfl : line = [] := by simpa using h
    exact nofun
  | cons x rest ih =>
    rw [List.splitOnP_cons_eq_if_modifyHead] at h
    split at h
    · rcases List.mem_cons.1 h with rfl | h
      · exact nofun
      · exact ih h
    · next plain =>
      cases pieces : rest.splitOnP r.isBreak with
      | nil => exact absurd pieces (List.splitOnP_ne_nil _ _)
      | cons piece others =>
        rw [pieces, List.modifyHead_cons] at h
        have plain : r.isBreak x = false := by simpa using plain
        rcases List.mem_cons.1 h with rfl | h
        · intro c hc
          rcases List.mem_cons.1 hc with rfl | hc
          · exact plain
          · exact ih (by rw [pieces]; exact List.mem_cons_self) c hc
        · exact ih (by rw [pieces]; exact List.mem_cons_of_mem _ h)

private theorem Trims.isBreak_join (trims : r.Trims kept text) : ∀ c ∈ join kept, r.isBreak c = false := by
  have parts {kept lines : List (List Char)} (h : List.Forall₂ (· <:+: ·) kept lines)
      (flat : ∀ line ∈ lines, ∀ c ∈ line, r.isBreak c = false) :
      ∀ line ∈ kept, ∀ c ∈ line, r.isBreak c = false := by
    induction h with
    | nil => exact nofun
    | cons part _ ih =>
      rw [List.forall_mem_cons] at flat ⊢
      exact ⟨fun c hc => flat.1 c (part.subset hc), ih flat.2⟩
  have lines := parts trims fun line => isBreak_of_mem_splitOnP
  clear trims
  induction kept with
  | nil => simp [join]
  | cons line rest ih =>
    have others := ih fun l hl => lines l (List.mem_cons_of_mem _ hl)
    have own := lines line List.mem_cons_self
    rw [join_cons]
    split
    · exact others
    · split
      · exact own
      · simp only [List.mem_append, List.mem_cons]
        rintro c (hc | rfl | hc)
        · exact own c hc
        · exact r.isBreak_of_isBlank _ r.isBlank_space
        · exact others c hc

private theorem Trims.decode_join_eq_iff (trims : r.Trims kept text) :
    r.decode (join kept) = text ↔ join kept = text ∧ ¬ r.Refers text := by
  constructor
  · intro same
    rcases decode_cases r (join kept) with ⟨none, kept⟩ | ⟨-, less⟩
    · have all := kept.symm.trans same
      exact ⟨all, all ▸ none⟩
    · have le := trims.length_join_le
      rw [same] at less
      omega
  · rintro ⟨all, none⟩
    rw [all]
    exact ((decode_cases r text).resolve_right fun h => none h.1).2

private theorem Trims.flat_of_join_eq (trims : r.Trims kept text) (same : join kept = text) :
    ∀ c ∈ text, r.isBreak c = false := same ▸ trims.isBreak_join

private theorem join_singleton (line : List Char) : join [line] = line := by
  rw [join_cons]
  split
  · next empty => rw [empty]; rfl
  · rfl

private theorem joined_eq_self_iff : r.joined text = text ↔ ∀ c ∈ text, r.isBreak c = false := by
  refine ⟨(trims_trimmedLines text).flat_of_join_eq, fun flat => ?_⟩
  rw [joined, List.splitOnP_eq_singleton flat, trimmedLines, join_singleton]

/-- Plain text between tags denotes itself exactly if it is one line in which no reference stands. -/
theorem decode_joined_eq_iff : r.decode (r.joined text) = text ↔
    (∀ c ∈ text, r.isBreak c = false) ∧ ¬ r.Refers text := by
  rw [joined, (r.trims_trimmedLines text).decode_join_eq_iff, ← joined, joined_eq_self_iff]

/-! ## Lines of their own -/

/-- What is left of plain text that stands on lines of its own. -/
def alone (r : Rules) (text : List Char) : List Char := join ((text.splitOnP r.isBreak).map r.trim)

private theorem trim_eq_self_iff : r.trim line = line ↔
    (∀ c ∈ line.head?, r.isBlank c = false) ∧ ∀ c ∈ line.getLast?, r.isBlank c = false := by
  have front : r.trimFront line = line ↔ ∀ c ∈ line.head?, r.isBlank c = false := by
    cases line with
    | nil => simp [trimFront]
    | cons c rest => simp [trimFront, List.dropWhile_eq_self_iff]
  have back : r.trimBack line = line ↔ ∀ c ∈ line.getLast?, r.isBlank c = false := by
    rw [trimBack, List.rdropWhile_eq_self_iff]
    cases line with
    | nil => simp
    | cons c rest => simp [List.getLast?_eq_getLast_of_ne_nil]
  rw [← front, ← back, trim]
  constructor
  · intro same
    have le := (List.dropWhile_suffix (l := line) r.isBlank)
    have less := (List.rdropWhile_prefix r.isBlank (r.trimFront line)).length_le
    have all : r.trimFront line = line := by
      refine le.eq_of_length_le ?_
      rw [← trimBack, same] at less
      exact less
    exact ⟨all, by rwa [all] at same⟩
  · rintro ⟨front, back⟩
    rw [front, back]

private theorem alone_eq_self_iff : r.alone text = text ↔ (∀ c ∈ text, r.isBreak c = false) ∧
    (∀ c ∈ text.head?, r.isBlank c = false) ∧ ∀ c ∈ text.getLast?, r.isBlank c = false := by
  have flat (h : ∀ c ∈ text, r.isBreak c = false) : r.alone text = r.trim text := by
    rw [alone, List.splitOnP_eq_singleton h, List.map_singleton, join_singleton]
  rw [← trim_eq_self_iff]
  constructor
  · intro same
    have one := (trims_map_trim text).flat_of_join_eq same
    exact ⟨one, (flat one).symm.trans same⟩
  · rintro ⟨one, same⟩
    exact (flat one).trans same

/-- Plain text on lines of its own denotes itself exactly if it is one line without blanks at its ends in which no
reference stands. -/
theorem decode_alone_eq_iff : r.decode (r.alone text) = text ↔
    (∀ c ∈ text, r.isBreak c = false) ∧ ¬ r.Refers text ∧
      (∀ c ∈ text.head?, r.isBlank c = false) ∧ ∀ c ∈ text.getLast?, r.isBlank c = false := by
  rw [alone, (r.trims_map_trim text).decode_join_eq_iff, ← alone, alone_eq_self_iff, and_right_comm, and_assoc]

private theorem alone_append (blank : ∀ c ∈ front, r.isBlank c = true) :
    r.alone (front ++ text) = r.alone text := by
  have pieces : (front ++ text).splitOnP r.isBreak = (text.splitOnP r.isBreak).modifyHead (front ++ ·) := by
    induction front with
    | nil =>
      rw [List.nil_append]
      cases text.splitOnP r.isBreak <;> rfl
    | cons c rest ih =>
      rw [List.forall_mem_cons] at blank
      rw [List.cons_append, List.splitOnP_cons_eq_if_modifyHead, if_neg (by simp [r.isBreak_of_isBlank _ blank.1]),
        ih blank.2, List.modifyHead_modifyHead]
      rfl
  rw [alone, pieces, alone]
  cases text.splitOnP r.isBreak with
  | nil => rfl
  | cons first rest =>
    rw [List.modifyHead_cons, List.map_cons, List.map_cons, trim, trimFront, List.dropWhile_append_of_pos blank]
    rfl

/-- What is left of text between line breaks and blanks around it is what is left of it on lines of its own. -/
theorem joined_padded (blank : ∀ c ∈ front, r.isBlank c = true) (blankAfter : ∀ c ∈ back, r.isBlank c = true) :
    r.joined ('\n' :: (front ++ (text ++ '\n' :: back))) = r.alone text := by
  have later (lines : List (List Char)) : r.trimmedLater (lines ++ [back]) = lines.map r.trim ++ [[]] := by
    induction lines with
    | nil => simpa [trimmedLater, trimFront] using blankAfter
    | cons line rest ih =>
      cases rest with
      | nil => simpa [trimmedLater, trimFront] using blankAfter
      | cons next others => simpa [trimmedLater] using ih
  have dropped (lines : List (List Char)) : join ([] :: (lines ++ [[]])) = join lines := by simp [join]
  have pieces : ('\n' :: (front ++ (text ++ '\n' :: back))).splitOnP r.isBreak =
      [] :: ((front ++ text).splitOnP r.isBreak ++ [back]) := by
    rw [List.splitOnP_cons_eq_if_modifyHead, if_pos r.isBreak_feed, ← List.append_assoc,
      List.splitOnP_append_cons _ _ r.isBreak_feed,
      List.splitOnP_eq_singleton fun c hc => r.isBreak_of_isBlank c (blankAfter c hc)]
  rw [← alone_append blank, joined, pieces]
  cases lines : (front ++ text).splitOnP r.isBreak with
  | nil => exact absurd lines (List.splitOnP_ne_nil _ _)
  | cons first rest =>
    show join (r.trimBack [] :: r.trimmedLater (first :: rest ++ [back])) = _
    rw [later, alone, lines]
    exact dropped _

@[simp] theorem plainText_nil : r.plainText [] = [] := by
  rw [plainText, joined_eq_self_iff.2 (by simp), decode]

/-- A line feed and blanks after it denote nothing. -/
theorem plainText_feed (blank : ∀ c ∈ front, r.isBlank c = true) : r.plainText ('\n' :: front) = [] := by
  have pieces : ('\n' :: front).splitOnP r.isBreak = [[], front] := by
    rw [List.splitOnP_cons_eq_if_modifyHead, if_pos r.isBreak_feed,
      List.splitOnP_eq_singleton fun c hc => r.isBreak_of_isBlank c (blank c hc)]
  have none : r.trimFront front = [] := List.dropWhile_eq_nil_iff.2 blank
  have nothing : r.joined ('\n' :: front) = [] := by
    rw [joined, pieces]
    simp [trimmedLines, trimmedLater, trimBack, none, join]
  rw [plainText, nothing, decode]

/-! ## Children -/

section

variable {source rest value : List Char} {fuel more : Nat}

private theorem childrenFrom_mono (h : r.childrenFrom fuel source = some value) (le : fuel ≤ more) :
    r.childrenFrom more source = some value := by
  induction fuel generalizing source value more with
  | zero => cases h
  | succ fuel ih =>
    cases more with
    | zero => omega
    | succ more =>
      have later {rest value : List Char} {f : List Char → List Char}
          (h : (r.childrenFrom fuel rest).map f = some value) :
          (r.childrenFrom more rest).map f = some value := by
        obtain ⟨_, found, rfl⟩ := Option.map_eq_some_iff.1 h
        rw [ih found (Nat.le_of_succ_le_succ le), Option.map_some]
      simp only [childrenFrom] at h ⊢
      split at h
      · exact h
      · split at h
        · next found => simpa only [found] using later h
        · cases h
      · split at h
        · cases h
        · exact later h
      · cases h

private theorem childrenFrom_of_children? (fuel : Nat) (h : r.children? rest = some value) (le : rest.length < fuel) :
    r.childrenFrom fuel rest = some value := childrenFrom_mono h le

variable (plain : ∀ c ∈ text, isPlain c = true)
include plain

private theorem takeWhile_plain (h : isPlain c = false) : (text ++ c :: rest).takeWhile isPlain = text := by
  simp [List.takeWhile_append_of_pos plain, h]

private theorem dropWhile_plain (h : isPlain c = false) : (text ++ c :: rest).dropWhile isPlain = c :: rest := by
  simp [List.dropWhile_append_of_pos plain, h]

/-- Plain text is the last child. -/
theorem children?_plain : r.children? text = some (r.plainText text) := by
  have all : text.takeWhile isPlain = text := List.takeWhile_eq_self_iff.2 plain
  have none : text.dropWhile isPlain = [] := List.dropWhile_eq_nil_iff.2 plain
  simp only [children?, childrenFrom, all, none]

/-- A text between quotes and braces comes after plain text. -/
theorem children?_expression (literal : String) (h : r.children? rest = some value) :
    r.children? (text ++ '\x7b' :: (Json.stringChars literal ++ '\x7d' :: rest)) =
      some (r.plainText text ++ literal.toList ++ value) := by
  have body : Json.stringBody (literal.toList.flatMap Json.escapeChar ++ ['"'] ++ '\x7d' :: rest) =
      some (some literal, '\x7d' :: rest) := by
    rw [List.append_assoc]
    exact Json.stringBody_escaped literal _
  have later := childrenFrom_of_children? (text ++ '\x7b' :: (Json.stringChars literal ++ '\x7d' :: rest)).length
    h (by simp only [List.length_append, List.length_cons]; omega)
  simp only [children?, childrenFrom, takeWhile_plain plain (c := '\x7b') rfl, dropWhile_plain plain (c := '\x7b') rfl]
  simp only [Json.stringChars, List.cons_append, body] at later ⊢
  rw [later, Option.map_some]

/-- A tag comes after plain text. -/
theorem children?_tag (tag : List Char) (closed : '>' ∉ tag) (h : r.children? rest = some value) :
    r.children? (text ++ '<' :: (tag ++ '>' :: rest)) = some (r.plainText text ++ value) := by
  have inside : ∀ c ∈ tag, (c != '>') = true := by
    intro c hc
    have other : c ≠ '>' := fun same => closed (same ▸ hc)
    simpa using other
  have tagEnd : (tag ++ '>' :: rest).dropWhile (· != '>') = '>' :: rest := by
    simp [List.dropWhile_append_of_pos inside]
  have later := childrenFrom_of_children? (text ++ '<' :: (tag ++ '>' :: rest)).length h
    (by simp only [List.length_append, List.length_cons]; omega)
  simp only [children?, childrenFrom, takeWhile_plain plain (c := '<') rfl, dropWhile_plain plain (c := '<') rfl,
    tagEnd, later, Option.map_some]

end

end Rules
end Handoff.Jsx
