import Handoff.Proofs.Module.Written

/-!
# Literals end where they should

A literal is read from its opening quote to the first quote that no backslash escapes. Every quote of the text has
such a backslash before it, and the text leaves none for the quote that closes the literal, however many
backslashes it ends in. So the literal holds the whole text and nothing else, and since it holds no line feed a
line is never broken inside it.
-/

namespace Handoff

namespace Text

/-- Whether a text escapes the character that follows it: it ends in a backslash that none before it escapes. -/
def escapes (text : List Char) : Bool := text.foldl (fun escaped c => !escaped && c == '\\') false

/-- The character for which an escaped character stands in a literal. -/
def escaped? (quote c : Char) : Option Char :=
  if c = '\\' then some '\\' else if c = 'n' then some '\n' else if c = quote then some quote else none

/-- The inside of a literal with its escapes undone. -/
def unescape? (quote : Char) : List Char → Option (List Char)
  | [] => some []
  | c :: rest =>
    if c = '\\' then
      match rest with
      | [] => none
      | e :: rest => do return (← escaped? quote e) :: (← unescape? quote rest)
    else (unescape? quote rest).map (c :: ·)

variable {quote c : Char} {text front back rest : List Char}

private theorem escapes_escapeChar_append (quote c : Char) (rest : List Char) :
    escapes (escapeChar quote c ++ rest) = escapes rest := by
  rcases escapeChar_cases quote c with ⟨plain, backslash, -, -⟩ | ⟨e, pair, -⟩
  · simp [plain, escapes, beq_false_of_ne backslash]
  · simp [pair, escapes]

/-- A written text does not escape the quote that closes its literal. -/
theorem escapes_flatMap (quote : Char) (text : List Char) : escapes (text.flatMap (escapeChar quote)) = false := by
  induction text with
  | nil => rfl
  | cons c rest ih => rw [List.flatMap_cons, escapes_escapeChar_append, ih]

private theorem escapes_of_escapeChar_eq (backslash : quote ≠ '\\')
    (here : escapeChar quote c = front ++ quote :: back) : escapes front = true := by
  rcases escapeChar_cases quote c with ⟨plain, -, -, own⟩ | ⟨e, pair, -⟩
  · rw [plain, List.cons_eq_append_iff] at here
    simp [own.symm] at here
  · rw [pair] at here
    match front, here with
    | [], here => exact absurd (List.head_eq_of_cons_eq here).symm backslash
    | [f], here => rw [← List.head_eq_of_cons_eq here]; rfl
    | _ :: _ :: _, here => simp at here

/-- Every quote in a written text is escaped. -/
theorem escapes_of_flatMap_eq (backslash : quote ≠ '\\')
    (here : text.flatMap (escapeChar quote) = front ++ quote :: back) : escapes front = true := by
  induction text generalizing front with
  | nil => simp at here
  | cons c rest ih =>
    rw [List.flatMap_cons, List.append_eq_append_iff] at here
    -- The quote is in what is written for the first character, or behind that.
    rcases here with ⟨front', rfl, later⟩ | ⟨part, first, later⟩
    · rw [escapes_escapeChar_append]
      exact ih later
    · cases part with
      | nil => exact absurd (@ih [] later.symm) (by decide)
      | cons q part =>
        rw [← List.head_eq_of_cons_eq later] at first
        exact escapes_of_escapeChar_eq backslash first

/-- What a written text stands for is the text. -/
theorem unescape?_flatMap (backslash : quote ≠ '\\') (letter : quote ≠ 'n') (text : List Char) :
    unescape? quote (text.flatMap (escapeChar quote)) = some text := by
  induction text with
  | nil => rfl
  | cons c rest ih =>
    rw [List.flatMap_cons]
    rcases escapeChar_cases quote c with ⟨plain, other, -, -⟩ | ⟨e, pair, stands⟩
    · rw [plain, List.singleton_append, unescape?.eq_def]
      simp [other, ih]
    · have back : escaped? quote e = some c := by
        rcases stands with ⟨rfl, rfl⟩ | ⟨rfl, rfl⟩ | ⟨rfl, rfl⟩
        · rfl
        · rfl
        · simp [escaped?, backslash, letter]
      simp [pair, unescape?, back, ih]

/-- The characters of a literal between its quotes. -/
theorem toList_quotedString (quote : Char) (text : String) :
    (quotedString quote text).toList = quote :: (text.toList.flatMap (escapeChar quote) ++ [quote]) := by
  rw [quotedString, quoted, String.toList_ofList]

/-- A literal stands for one text only. -/
theorem quotedString_injective (backslash : quote ≠ '\\') (letter : quote ≠ 'n') :
    Function.Injective (quotedString quote) := by
  intro text other same
  have inside := congrArg String.toList same
  rw [toList_quotedString, toList_quotedString, List.cons_inj_right, List.append_left_inj] at inside
  have undone := unescape?_flatMap backslash letter text.toList
  rw [inside, unescape?_flatMap backslash letter, Option.some_inj] at undone
  exact String.toList_inj.1 undone.symm

end Text

namespace Layout

private theorem exists_indented_append (ind : List Char) (fresh : Bool) (before : List Char) :
    ∃ later, ∀ rest, indented ind fresh (before ++ rest) = indented ind fresh before ++ indented ind later rest := by
  induction before generalizing fresh with
  | nil => exact ⟨fresh, fun _ => rfl⟩
  | cons c before ih =>
    by_cases feed : c = '\n'
    · obtain ⟨later, split⟩ := ih true
      exact ⟨later, fun rest => by simp [indented, feed, split]⟩
    · obtain ⟨later, split⟩ := ih false
      exact ⟨later, fun rest => by cases fresh <;> simp [indented, feed, split]⟩

/-- A literal is written in one piece wherever it stands in a line, and the rest of the line does not depend on
it. -/
theorem exists_writeLine_quotedString {quote : Char} (feed : quote ≠ '\n') (w : Writer) (before after : String) :
    ∃ front back : String, ∀ text,
      (w.writeLine (before ++ Text.quotedString quote text ++ after)).text =
        w.text ++ front ++ Text.quotedString quote text ++ back := by
  obtain ⟨later, split⟩ := exists_indented_append (indentation w.unit w.depth) true before.toList
  refine ⟨String.ofList (indented (indentation w.unit w.depth) true before.toList ++
    if later then indentation w.unit w.depth else []),
    String.ofList (indented (indentation w.unit w.depth) false after.toList ++ ['\n']), fun text => ?_⟩
  have flat : '\n' ∉ (Text.quotedString quote text).toList := by
    rw [Text.quotedString, String.toList_ofList]
    exact Text.newline_not_mem_quoted feed text.toList
  have start : ∃ c rest, (Text.quotedString quote text).toList ++ after.toList = c :: rest ∧ c ≠ '\n' :=
    ⟨quote, _, by rw [Text.toList_quotedString, List.cons_append], feed⟩
  rw [writeLine_eq, ← String.toList_inj]
  simp only [lineChars, String.toList_append, String.toList_ofList, List.append_assoc, split]
  cases later with
  | true => simp [indented_of_head start, indented_append_of_flat flat]
  | false => simp [indented_append_of_flat flat]

end Layout

namespace Text

/-- A literal in either quote begins with it and is on one line. The first quote after that which no backslash
escapes is its last character, and what lies between stands for the text with its escapes undone. So different
texts have different literals, and a line is written with its literals in one piece. -/
theorem quotedString_closed {quote : Char} (known : quote = '\'' ∨ quote = '"') :
    (∀ text, ∃ inner, (quotedString quote text).toList = quote :: (inner ++ [quote]) ∧
      '\n' ∉ (quotedString quote text).toList ∧
      escapes inner = false ∧ (∀ front back, inner = front ++ quote :: back → escapes front = true) ∧
      unescape? quote inner = some text.toList) ∧
    (∀ text other, text ≠ other → quotedString quote text ≠ quotedString quote other) ∧
    ∀ (w : Writer) (before after : String), ∃ front back : String, ∀ text,
      (w.writeLine (before ++ quotedString quote text ++ after)).text =
        w.text ++ front ++ quotedString quote text ++ back := by
  obtain ⟨backslash, letter, feed⟩ : quote ≠ '\\' ∧ quote ≠ 'n' ∧ quote ≠ '\n' := by
    rcases known with rfl | rfl <;> decide
  refine ⟨fun text => ?_, fun text other => (quotedString_injective backslash letter).ne,
    fun w before after => Layout.exists_writeLine_quotedString feed w before after⟩
  have flat : '\n' ∉ (quotedString quote text).toList := by
    rw [quotedString, String.toList_ofList]
    exact newline_not_mem_quoted feed text.toList
  exact ⟨text.toList.flatMap (escapeChar quote), toList_quotedString quote text, flat, escapes_flatMap quote _,
    fun front back here => escapes_of_flatMap_eq backslash here, unescape?_flatMap backslash letter _⟩

/-- An apostrophe, a line feed and a backslash at the end stay inside the literal. -/
theorem quoted_apostrophe : ('\'' = '\'' ∨ '\'' = '"') ∧
    quotedString '\'' "it's\n\\" = "'it\\'s\\n\\\\'" ∧
    ∀ other, other ≠ "it's\n\\" → quotedString '\'' other ≠ "'it\\'s\\n\\\\'" := by
  have written : quotedString '\'' "it's\n\\" = "'it\\'s\\n\\\\'" := by decide +kernel
  exact ⟨.inl rfl, written, fun other differs => written ▸ (quotedString_closed (.inl rfl)).2.1 other _ differs⟩

end Text
end Handoff
