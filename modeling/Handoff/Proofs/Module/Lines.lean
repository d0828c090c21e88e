import Handoff.Module.Usage
import Handoff.Proofs.Module.Written
import Handoff.Proofs.Text.Split

/-!
# Lines of written text

A line that is written with no indentation stands in the text as it is, if it holds no line feed, and what is
written later follows it. So the imports of a module are lines of its text, and so are the exports of an
index.
-/

namespace Handoff

/-- Whether a text has a line: it stands at the beginning or after other lines, and a line feed ends it. -/
def HasLine (text line : String) : Prop :=
  ∃ before : List String, ∃ after,
    text = String.join (before.map (· ++ "\n")) ++ (line ++ "\n") ++ after

namespace Writer

/-- A line that holds no line feed is written as it is where nothing is indented. -/
theorem text_writeLine_of_flat {w : Writer} (top : w.depth = 0) {line : String}
    (flat : '\n' ∉ line.toList) : (w.writeLine line).text = w.text ++ (line ++ "\n") := by
  have unindented : w.indentation = "" := by rw [indentation, top]; rfl
  simp only [writeLine, Text.splitOnChar_of_not_mem flat, List.foldl_cons, List.foldl_nil, unindented,
    lineText, List.isEmpty_iff]
  split
  · next empty => simp [String.toList_eq_nil_iff.1 empty]
  · simp

end Writer

namespace Layout

private theorem text_writeAll_grows (w : Writer) (layouts : List Layout) :
    ∃ t, (writeAll w layouts).text = w.text ++ t :=
  ⟨_, by rw [writeAll_eq]⟩

/-- Flat lines are written one after the other where nothing is indented. -/
theorem text_writeAll_lines {w : Writer} (top : w.depth = 0) {lines : List String}
    (flat : ∀ line ∈ lines, '\n' ∉ line.toList) :
    (writeAll w (lines.map .line)).text = w.text ++ String.join (lines.map (· ++ "\n")) := by
  induction lines generalizing w with
  | nil => simp [writeAll]
  | cons line rest ih =>
    have first := Writer.text_writeLine_of_flat top (flat line (by simp))
    have later := ih (w := w.writeLine line) top fun l hl => flat l (List.mem_cons_of_mem _ hl)
    rw [List.map_cons, writeAll, write, later, first]
    simp [String.append_assoc]

/-- The flat lines with which a text begins are lines of it. -/
theorem hasLine_render {s : WriterSettings} {lines : List String}
    (flat : ∀ line ∈ lines, '\n' ∉ line.toList) {rest : List Layout} {line : String} (h : line ∈ lines) :
    HasLine (render s (lines.map .line ++ rest)) line := by
  obtain ⟨before, after, rfl⟩ := List.append_of_mem h
  let w := writeAll (Writer.ofSettings s) ((before ++ line :: after).map .line)
  obtain ⟨t, ht⟩ := text_writeAll_grows w rest
  refine ⟨before, String.join (after.map (· ++ "\n")) ++ t, ?_⟩
  rw [render, writeAll_append, ht, text_writeAll_lines rfl flat]
  simp [Writer.ofSettings, String.append_assoc]

end Layout

/-- The imports of a module are lines of its text. -/
theorem ComponentModule.hasLine_text {s : Settings} {m : ComponentModule}
    (flat : ∀ i ∈ m.imports, '\n' ∉ (i.text s).toList) {i : Import} (h : i ∈ m.imports) :
    HasLine (m.text s) (i.text s) := by
  have layouts : m.layouts s = (m.imports.map (·.text s)).map .line ++ ([.blank] ++ m.interfaceLayouts s
      ++ (m.documentation.map (·.layouts)).getD [] ++ [m.functionLayout s, .blank, m.sheetLayout s]) := by
    simp [ComponentModule.layouts]
  rw [text, layouts]
  exact Layout.hasLine_render (by simpa using flat) (List.mem_map_of_mem h)

/-- The exports of an index are lines of its text. -/
theorem hasLine_indexText {s : Settings} {names : List String}
    (flat : ∀ name ∈ names, '\n' ∉ (indexLine s name).toList) {name : String} (h : name ∈ names) :
    HasLine (indexText s names) (indexLine s name) := by
  have layouts : names.map (fun name => Layout.line (indexLine s name)) =
      (names.map (indexLine s)).map .line ++ [] := by simp
  rw [indexText, layouts]
  exact Layout.hasLine_render (by simpa using flat) (List.mem_map_of_mem h)

end Handoff
