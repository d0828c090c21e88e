import Handoff.Module.Printer

/-!
# Written text as characters

Writing a layout adds characters to a text that depend on the unit of indentation and the depth alone. A line that
holds line feeds is written as several, each of them indented unless it is empty; so characters of a line are
written with what comes after them, and an indentation stands between them only after a line feed.
-/

namespace Handoff

namespace Layout

/-- The characters of a line as they are written at an indentation; `fresh` says that they begin a new line. -/
def indented (indentation : List Char) : Bool → List Char → List Char
  | _, [] => []
  | fresh, c :: rest =>
    if c = '\n' then '\n' :: indented indentation true rest
    else if fresh then indentation ++ c :: indented indentation false rest
    else c :: indented indentation false rest

/-- The indentation at a depth. -/
def indentation (unit : String) (depth : Nat) : List Char := (List.replicate depth unit.toList).flatten

/-- The characters of a line at a depth, with the line feed that ends it. -/
def lineChars (unit : String) (depth : Nat) (line : String) : List Char :=
  indented (indentation unit depth) true line.toList ++ ['\n']

mutual

/-- The characters of a layout at a depth. -/
def chars (unit : String) (depth : Nat) : Layout → List Char
  | line text => lineChars unit depth text
  | blank => ['\n']
  | block opening closing body =>
    lineChars unit depth opening ++ charsAll unit (depth + 1) body ++ lineChars unit depth closing

/-- The characters of layouts, one after the other. -/
def charsAll (unit : String) (depth : Nat) : List Layout → List Char
  | [] => []
  | layout :: rest => chars unit depth layout ++ charsAll unit depth rest

end

variable {unit : String} {depth : Nat} {before rest : List Char} {fresh : Bool}

/-! ## Lines -/

/-- What comes after a character other than a line feed goes on with its line. -/
theorem indented_append_of_last {ind : List Char} {c : Char} (h : c ≠ '\n') :
    indented ind fresh (before ++ c :: rest) = indented ind fresh (before ++ [c]) ++ indented ind false rest := by
  induction before generalizing fresh with
  | nil => cases fresh <;> simp [indented, h]
  | cons b before ih =>
    simp only [List.cons_append, indented, ih]
    split
    · rfl
    · split
      · simp
      · rfl

/-- Without an indentation characters are written as they are. -/
@[simp] theorem indented_nil (fresh : Bool) (l : List Char) : indented [] fresh l = l := by
  induction l generalizing fresh with
  | nil => rfl
  | cons c rest ih =>
    simp only [indented, ih, List.nil_append, ite_self]
    split
    · next h => rw [h]
    · rfl

/-- A line that begins with a character other than a line feed is written after the indentation. -/
theorem indented_of_head {ind line : List Char} (h : ∃ c rest, line = c :: rest ∧ c ≠ '\n') :
    indented ind true line = ind ++ indented ind false line := by
  obtain ⟨c, rest, rfl, h⟩ := h
  simp [indented, h]

/-- Characters of one line are written as they are before others of it. -/
theorem indented_append_of_flat {ind line : List Char} (flat : '\n' ∉ line) :
    indented ind false (line ++ rest) = line ++ indented ind false rest := by
  induction line with
  | nil => rfl
  | cons c line ih =>
    rw [List.mem_cons, not_or] at flat
    rw [List.cons_append, indented, if_neg (Ne.symm flat.1), if_neg Bool.false_ne_true, ih flat.2, List.cons_append]

/-- Characters of one line are written as they are after others of it. -/
theorem indented_of_flat {ind line : List Char} (flat : '\n' ∉ line) : indented ind false line = line := by
  have alone : indented ind false (line ++ []) = line ++ indented ind false [] := indented_append_of_flat flat
  rwa [List.append_nil, indented, List.append_nil] at alone

/-- Characters of one line are written after an indentation, or alone if there are none. -/
theorem exists_indented_of_flat {line : List Char} (ind : List Char) (flat : '\n' ∉ line) :
    ∃ front, (∀ c ∈ front, c ∈ ind) ∧ indented ind true line = front ++ line := by
  cases line with
  | nil => exact ⟨[], nofun, rfl⟩
  | cons c rest =>
    have first : c ≠ '\n' := fun same => flat (by simp [same])
    exact ⟨ind, fun _ mem => mem, by rw [indented_of_head ⟨c, rest, rfl, first⟩, indented_of_flat flat]⟩

/-- The pieces of a line are written with the indentation before each that is not empty. -/
private theorem flatMap_lineText (w : String) (l : List Char) :
    (Text.splitOnChar '\n' l).flatMap (fun piece => (Writer.lineText w piece).toList) =
        indented w.toList true l ++ ['\n'] ∧
      ∀ piece pieces, Text.splitOnChar '\n' l = piece :: pieces →
        piece ++ '\n' :: pieces.flatMap (fun piece => (Writer.lineText w piece).toList) =
          indented w.toList false l ++ ['\n'] := by
  have written {piece : List Char} (h : piece ≠ []) :
      (Writer.lineText w piece).toList = w.toList ++ piece ++ ['\n'] := by
    simp [Writer.lineText, h]
  induction l with
  | nil => simp [Text.splitOnChar, indented, Writer.lineText]
  | cons c rest ih =>
    obtain ⟨whole, later⟩ := ih
    by_cases feed : c = '\n'
    · subst feed
      simp [Text.splitOnChar, indented, Writer.lineText, ← whole]
    · cases pieces : Text.splitOnChar '\n' rest with
      | nil => exact absurd pieces (Text.splitOnChar_ne_nil _ _)
      | cons piece others =>
        have goes := later piece others pieces
        simp [Text.splitOnChar, indented, feed, pieces, written, goes]

private theorem toList_foldl_append (f : List Char → String) (pieces : List (List Char)) (text : String) :
    (pieces.foldl (fun t l => t ++ f l) text).toList = text.toList ++ pieces.flatMap fun l => (f l).toList := by
  induction pieces generalizing text with
  | nil => simp
  | cons piece rest ih => simp [ih]

/-- Writing a line adds its characters. -/
theorem writeLine_eq (w : Writer) (line : String) :
    w.writeLine line = { w with text := w.text ++ String.ofList (lineChars w.unit w.depth line) } := by
  have indentation : w.indentation.toList = indentation w.unit w.depth := by
    rw [Writer.indentation, Layout.indentation, String.toList_join, List.flatMap_replicate]
  rw [Writer.writeLine, lineChars, ← indentation, ← (flatMap_lineText w.indentation line.toList).1]
  congr 1
  rw [← String.toList_inj, toList_foldl_append, String.toList_append, String.toList_ofList]

/-! ## Layouts -/

mutual

/-- Writing a layout adds its characters. -/
theorem write_eq (w : Writer) : ∀ l : Layout,
    write w l = { w with text := w.text ++ String.ofList (chars w.unit w.depth l) }
  | line text => writeLine_eq w text
  | blank => rfl
  | block opening closing body => by
    rw [write, writeLine_eq, Writer.indent, writeAll_eq, Writer.dedent, writeLine_eq, chars]
    simp only [Nat.add_sub_cancel, String.ofList_append, String.append_assoc]

/-- Writing layouts adds their characters, one layout after the other. -/
theorem writeAll_eq (w : Writer) : ∀ ls : List Layout,
    writeAll w ls = { w with text := w.text ++ String.ofList (charsAll w.unit w.depth ls) }
  | [] => by simp [writeAll, charsAll]
  | l :: rest => by
    rw [writeAll, write_eq, writeAll_eq, charsAll]
    simp only [String.ofList_append, String.append_assoc]

end

/-- The text of layouts is made of their characters. -/
theorem toList_render (s : WriterSettings) (layouts : List Layout) :
    (render s layouts).toList = charsAll (Writer.unitOf s) 0 layouts := by
  simp [render, writeAll_eq, Writer.ofSettings]

/-- The characters of layouts stand one after the other. -/
theorem charsAll_eq_flatMap (layouts : List Layout) :
    charsAll unit depth layouts = layouts.flatMap (chars unit depth) := by
  induction layouts with
  | nil => rfl
  | cons layout rest ih => rw [charsAll, ih, List.flatMap_cons]

/-- The characters of layouts are those of the first ones and then those of the others. -/
theorem charsAll_append (a b : List Layout) :
    charsAll unit depth (a ++ b) = charsAll unit depth a ++ charsAll unit depth b := by
  simp only [charsAll_eq_flatMap, List.flatMap_append]

mutual

/-- The lines of a layout, each with its depth. -/
def lines (depth : Nat) : Layout → List (Nat × String)
  | line text => [(depth, text)]
  | blank => [(depth, "")]
  | block opening closing body => (depth, opening) :: linesAll (depth + 1) body ++ [(depth, closing)]

/-- The lines of layouts, one after the other. -/
def linesAll (depth : Nat) : List Layout → List (Nat × String)
  | [] => []
  | layout :: rest => lines depth layout ++ linesAll depth rest

end

/-- The lines of layouts are those of the first ones and then those of the others. -/
@[simp] theorem linesAll_append (a b : List Layout) :
    linesAll depth (a ++ b) = linesAll depth a ++ linesAll depth b := by
  induction a with
  | nil => rfl
  | cons layout rest ih => rw [List.cons_append, linesAll, ih, linesAll, List.append_assoc]

mutual

/-- A layout is written line by line. -/
theorem chars_eq_flatMap (depth : Nat) : ∀ l : Layout,
    chars unit depth l = (lines depth l).flatMap fun line => lineChars unit line.1 line.2
  | line text => by simp [chars, lines]
  | blank => by simp [chars, lines, lineChars, indented]
  | block opening closing body => by simp [chars, lines, charsAll_eq_flatMap_lines (depth + 1) body]

/-- Layouts are written line by line. -/
theorem charsAll_eq_flatMap_lines (depth : Nat) : ∀ ls : List Layout,
    charsAll unit depth ls = (linesAll depth ls).flatMap fun line => lineChars unit line.1 line.2
  | [] => rfl
  | l :: rest => by
    rw [charsAll, linesAll, List.flatMap_append, chars_eq_flatMap depth l, charsAll_eq_flatMap_lines depth rest]

end

/-- Whether a text is that of layouts: their lines in order, each indented by its depth. -/
def Spell (s : WriterSettings) (layouts : List Layout) (text : String) : Prop :=
  text.toList = (linesAll 0 layouts).flatMap fun line => lineChars (Writer.unitOf s) line.1 line.2

/-- Layouts are written as their text. -/
theorem spell_render (s : WriterSettings) (layouts : List Layout) : Spell s layouts (render s layouts) := by
  rw [Spell, toList_render, charsAll_eq_flatMap_lines]

/-- At the top nothing is indented. -/
@[simp] theorem lineChars_top (line : String) : lineChars unit 0 line = line.toList ++ ['\n'] := by
  simp [lineChars, indentation]

/-- An indentation is made of blanks and tabs. -/
theorem mem_indentation_unitOf {s : WriterSettings} {c : Char}
    (h : c ∈ indentation (Writer.unitOf s) depth) : c = ' ' ∨ c = '\t' := by
  obtain ⟨_, listed, mem⟩ := List.mem_flatten.1 h
  obtain rfl := List.eq_of_mem_replicate listed
  unfold Writer.unitOf at mem
  split at mem
  · exact .inr (by simpa using mem)
  · rw [String.toList_ofList] at mem
    exact .inl (List.eq_of_mem_replicate mem)

end Layout

/-- Texts are quoted in one of two ways. -/
theorem Writer.quoteOf_cases (s : WriterSettings) : quoteOf s = '\'' ∨ quoteOf s = '"' := by
  unfold quoteOf
  split
  · exact .inl rfl
  · exact .inr rfl

end Handoff
