import Handoff.Proofs.Module.Lines
import Handoff.Proofs.Text.Identifier

/-!
# What an index exports

The index of a list of names has one line for each of them, in order, and the line tells the name. So an
index exports a name as often as the name is in the list.
-/

namespace Handoff

variable {s : Settings}

/-! ## Literals -/

namespace Text

/-- A literal is longer than its text. -/
theorem length_le_quoted (quote : Char) (text : List Char) :
    text.length + 2 ≤ (quoted quote text).length := by
  have escaped : text.length ≤ (text.flatMap (escapeChar quote)).length := by
    induction text with
    | nil => exact Nat.le_refl 0
    | cons c rest ih =>
      have one : 1 ≤ (escapeChar quote c).length := by
        rcases escapeChar_cases quote c with ⟨plain, -⟩ | ⟨e, pair, -⟩
        · simp [plain]
        · simp [pair]
      rw [List.flatMap_cons, List.length_append, List.length_cons]
      omega
  simp only [quoted, List.length_cons, List.length_append, List.length_nil]
  omega

/-- A text without special characters is written in a literal as it is. -/
theorem flatMap_escapeChar {quote : Char} {text : List Char}
    (ordinary : ∀ c ∈ text, c ≠ '\\' ∧ c ≠ '\n' ∧ c ≠ quote) : text.flatMap (escapeChar quote) = text := by
  induction text with
  | nil => rfl
  | cons c rest ih =>
    obtain ⟨backslash, feed, own⟩ := ordinary c List.mem_cons_self
    rw [List.flatMap_cons, escapeChar_plain backslash feed own,
      ih fun c hc => ordinary c (List.mem_cons_of_mem _ hc), List.singleton_append]

end Text

/-! ## The lines of an index -/

private theorem toList_indexLine (s : Settings) (name : String) : (indexLine s name).toList =
    "export \x7b".toList ++ (name.toList ++ '\x7d' :: (" from ".toList ++
      (Text.quoted (Writer.quoteOf s.writer) ('.' :: '/' :: name.toList) ++ [';']))) := by
  simp [indexLine, braced, Settings.quoted, Text.quotedString]

private theorem newline_not_mem_indexLine {name : String} (plain : Text.IsPlain name) :
    '\n' ∉ (indexLine s name).toList := by
  have feed : '\n' ∉ name.toList := plain.not_mem (by decide)
  have quote : Writer.quoteOf s.writer ≠ '\n' := by
    rcases Writer.quoteOf_cases s.writer with h | h <;> rw [h] <;> decide
  have literal := Text.newline_not_mem_quoted quote ('.' :: '/' :: name.toList)
  rw [toList_indexLine]
  simp [feed, literal]

private theorem length_quoted {name : String} (plain : Text.IsPlain name) :
    (Text.quoted (Writer.quoteOf s.writer) ('.' :: '/' :: name.toList)).length =
      name.toList.length + 4 := by
  have written (quote : Char) (ordinary : quote ≠ '.' ∧ quote ≠ '/' ∧ Text.isPlain quote = false) :
      Text.quoted quote ('.' :: '/' :: name.toList) = quote :: '.' :: '/' :: (name.toList ++ [quote]) := by
    have differs {c : Char} (special : Text.isPlain c = false) : ∀ c' ∈ name.toList, c' ≠ c :=
      fun _ hc' same => plain.not_mem special (same ▸ hc')
    have same : name.toList.flatMap (Text.escapeChar quote) = name.toList :=
      Text.flatMap_escapeChar fun c hc =>
        ⟨differs (by decide) c hc, differs (by decide) c hc, differs ordinary.2.2 c hc⟩
    rw [Text.quoted, List.flatMap_cons, List.flatMap_cons, same,
      Text.escapeChar_plain (by decide) (by decide) ordinary.1.symm,
      Text.escapeChar_plain (by decide) (by decide) ordinary.2.1.symm]
    rfl
  rcases Writer.quoteOf_cases s.writer with h | h <;> rw [h, written _ (by decide)] <;> simp

private theorem eq_of_indexLine {name other : String} (plain : Text.IsPlain name)
    (h : indexLine s other = indexLine s name) : other = name := by
  have same := congrArg String.toList h
  rw [toList_indexLine, toList_indexLine, List.append_cancel_left_eq] at same
  -- The name is written twice on its line, and without escapes, so no longer name has a line of its length.
  have short := length_quoted (s := s) plain
  have long := Text.length_le_quoted (Writer.quoteOf s.writer) ('.' :: '/' :: other.toList)
  have lengths := congrArg List.length same
  simp only [List.length_append, List.length_cons, List.length_nil] at short long lengths
  obtain ⟨t, ht⟩ : other.toList <+: name.toList :=
    List.prefix_of_prefix_length_le (same ▸ List.prefix_append _ _) (List.prefix_append _ _) (by omega)
  rw [← ht, List.append_assoc, List.append_cancel_left_eq] at same
  cases t with
  | nil => exact String.toList_inj.1 (by simpa using ht)
  | cons c t =>
    have brace : '\x7d' ∈ name.toList := by
      rw [← ht, (List.cons.inj same).1]
      simp
    exact absurd brace (plain.not_mem (by decide))

/-- How often an index exports a name: on how many lines the export of the name stands. -/
def exportsOf (s : Settings) (index name : String) : Nat :=
  (Text.lines index.toList).count (indexLine s name).toList

/-- The index of identifiers has a line for each of them. -/
theorem lines_indexText {names : List String} (plain : ∀ name ∈ names, Text.IsPlain name) :
    Text.lines (indexText s names).toList = names.map fun name => (indexLine s name).toList := by
  have flat : ∀ line ∈ names.map (indexLine s), '\n' ∉ line.toList := by
    intro line hline
    obtain ⟨name, hname, rfl⟩ := List.mem_map.1 hline
    exact newline_not_mem_indexLine (plain name hname)
  have text : (indexText s names).toList =
      (names.map fun name => (indexLine s name).toList).flatMap (· ++ ['\n']) := by
    have written := Layout.text_writeAll_lines (w := Writer.ofSettings s.writer) rfl flat
    rw [List.map_map] at written
    rw [indexText, Layout.render]
    refine (congrArg String.toList written).trans ?_
    simp [Writer.ofSettings, String.toList_join, List.flatMap_map]
  rw [text, Text.lines_flatMap]
  intro line hline
  obtain ⟨name, hname, rfl⟩ := List.mem_map.1 hline
  exact newline_not_mem_indexLine (plain name hname)

/-- The index of identifiers exports a name as often as it is among them. -/
theorem exportsOf_indexText {names : List String} (plain : ∀ name ∈ names, Text.IsPlain name)
    (name : String) : exportsOf s (indexText s names) name = names.count name := by
  rw [exportsOf, lines_indexText plain]
  induction names with
  | nil => rfl
  | cons first rest ih =>
    have same : (indexLine s first).toList = (indexLine s name).toList ↔ first = name :=
      ⟨fun h => (eq_of_indexLine (plain first List.mem_cons_self) (String.toList_inj.1 h).symm).symm,
        fun h => by rw [h]⟩
    rw [List.map_cons, List.count_cons, List.count_cons, ih fun n hn => plain n (List.mem_cons_of_mem _ hn)]
    by_cases h : first = name
    · rw [beq_iff_eq.2 h, beq_iff_eq.2 (same.2 h)]
    · rw [beq_eq_false_iff_ne.2 h, beq_eq_false_iff_ne.2 fun hl => h (same.1 hl)]

/-- The name in a description is an identifier. -/
theorem Document.isPlain_of_describe {d : Document} {id : NodeId} {selected : Option NodeId}
    {found : Descriptor} (described : d.describe id selected = .ok found) : Text.IsPlain found.name := by
  obtain ⟨_, t, -, -, -, name⟩ := target_of_describe described
  rw [name]
  exact Text.isPlain_pascalIdentifier t.name

end Handoff
