/-!
# Quoted literals and markup text

A literal encloses its text in one quote character. Inside, a backslash, a line feed and the quote are
written with a backslash before them, so the literal stays on one line and ends at its own quote.
Markup text that holds a brace, an angle bracket or a line feed has to be written as an expression.
-/

namespace Handoff.Text

/-- The written form of one character inside a literal quoted with `quote`. -/
def escapeChar (quote c : Char) : List Char :=
  if c = '\\' then ['\\', '\\']
  else if c = '\n' then ['\\', 'n']
  else if c = quote then ['\\', c]
  else [c]

/-- The literal that stands for a text. -/
def quoted (quote : Char) (text : List Char) : List Char :=
  quote :: (text.flatMap (escapeChar quote) ++ [quote])

/-- The literal that stands for a string. -/
def quotedString (quote : Char) (text : String) : String :=
  String.ofList (quoted quote text.toList)

/-- Whether markup text must be written as an expression. -/
def needsExpression (text : String) : Bool :=
  text.toList.any (['\x7b', '\x7d', '<', '>', '\n'].contains ·)

/-- A character without a special meaning is written as itself. -/
theorem escapeChar_plain {quote c : Char} (h : c ≠ '\\') (hn : c ≠ '\n') (hq : c ≠ quote) :
    escapeChar quote c = [c] := by
  simp [escapeChar, h, hn, hq]

/-- What a character is written as: itself, or a backslash and what stands for it. -/
theorem escapeChar_cases (quote c : Char) :
    (escapeChar quote c = [c] ∧ c ≠ '\\' ∧ c ≠ '\n' ∧ c ≠ quote) ∨
      ∃ e, escapeChar quote c = ['\\', e] ∧
        (c = '\\' ∧ e = '\\' ∨ c = '\n' ∧ e = 'n' ∨ c = quote ∧ e = quote) := by
  by_cases backslash : c = '\\'
  · exact .inr ⟨'\\', by simp [escapeChar, backslash], .inl ⟨backslash, rfl⟩⟩
  · by_cases feed : c = '\n'
    · exact .inr ⟨'n', by simp [escapeChar, feed], .inr (.inl ⟨feed, rfl⟩)⟩
    · by_cases own : c = quote
      · exact .inr ⟨quote, by simp [escapeChar, backslash, feed, ← own], .inr (.inr ⟨own, rfl⟩)⟩
      · exact .inl ⟨escapeChar_plain backslash feed own, backslash, feed, own⟩

/-- A literal never holds a line feed, unless the quote itself is one. -/
theorem newline_not_mem_quoted {quote : Char} (hq : quote ≠ '\n') (text : List Char) :
    '\n' ∉ quoted quote text := by
  have inside (c : Char) : '\n' ∉ escapeChar quote c := by
    rcases escapeChar_cases quote c with ⟨plain, -, feed, -⟩ | ⟨e, pair, ⟨-, rfl⟩ | ⟨-, rfl⟩ | ⟨-, rfl⟩⟩
    · simp [plain, Ne.symm feed]
    · simp [pair]
    · simp [pair]
    · simp [pair, Ne.symm hq]
  simp only [quoted, List.mem_cons, List.mem_append, List.mem_flatMap, not_or]
  refine ⟨hq.symm, ?_, by simp [hq.symm]⟩
  rintro ⟨c, -, hc⟩
  exact inside c hc

end Handoff.Text
