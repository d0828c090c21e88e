import Handoff.Proofs.Module.Rendering
import Handoff.Proofs.Module.Spans
import Mathlib.Data.List.TakeWhile

/-!
# Where comments end

A comment ends with the first terminator after its opening. What is written into a comment is neither searched for
terminators nor escaped, so a comment ends where it is meant to exactly if no text of a design in it holds one:
indentation, trimming and the characters around these texts never make or break a terminator.
-/

namespace Handoff

/-- What follows the first terminator of a comment. -/
def afterTerminator? : List Char → Option (List Char)
  | [] => none
  | c :: rest => if c = '*' ∧ rest.head? = some '/' then some rest.tail else afterTerminator? rest

/-- What follows the comment with which a text begins. -/
def afterComment? : List Char → Option (List Char)
  | '/' :: '*' :: rest => afterTerminator? rest
  | _ => none

/-- Whether a text holds a terminator of comments. -/
def Terminates (text : List Char) : Prop := ['*', '/'] <:+: text

instance : DecidablePred Terminates := fun _ => inferInstanceAs (Decidable (_ <:+: _))

variable {a b l body after : List Char} {c : Char}

/-! ## Texts with terminators -/

@[simp] theorem not_terminates_nil : ¬ Terminates [] := by simp [Terminates]

/-- A terminator is at the front or later. -/
theorem terminates_cons : Terminates (c :: l) ↔ c = '*' ∧ l.head? = some '/' ∨ Terminates l := by
  rw [Terminates, List.infix_cons_iff, List.cons_prefix_cons]
  refine or_congr (and_congr eq_comm ?_) Iff.rfl
  cases l with
  | nil => simp
  | cons x rest => simp [List.cons_prefix_cons, eq_comm]

/-- No terminator begins in characters that are no asterisks. -/
theorem terminates_append_of_left (h : ∀ x ∈ a, x ≠ '*') : Terminates (a ++ b) ↔ Terminates b := by
  induction a with
  | nil => rfl
  | cons x rest ih =>
    have first : x ≠ '*' := h x List.mem_cons_self
    rw [List.cons_append, terminates_cons, ih fun y hy => h y (List.mem_cons_of_mem _ hy)]
    simp [first]

/-- Where something other than a slash follows, a terminator stands before it or after it. -/
theorem terminates_append_cons (h : c ≠ '/') : Terminates (a ++ c :: b) ↔ Terminates a ∨ Terminates (c :: b) := by
  induction a with
  | nil => simp
  | cons x rest ih =>
    have head : (rest ++ c :: b).head? = some '/' ↔ rest.head? = some '/' := by
      cases rest <;> simp [h]
    rw [List.cons_append, terminates_cons, terminates_cons, ih, head, or_assoc]

/-- A character that is neither an asterisk nor a slash parts terminators. -/
theorem terminates_append_parting (h : c ≠ '*' ∧ c ≠ '/') :
    Terminates (a ++ c :: b) ↔ Terminates a ∨ Terminates b := by
  rw [terminates_append_cons h.2, terminates_cons]
  simp [h.1]

/-- Characters that are no slashes end no terminator. -/
theorem terminates_append_of_right (h : ∀ x ∈ b, x ≠ '/') : Terminates (a ++ b) ↔ Terminates a := by
  have none : ¬ Terminates b := fun ⟨before, after, split⟩ => h '/' (by simp [← split]) rfl
  cases b with
  | nil => rw [List.append_nil]
  | cons x rest => rw [terminates_append_cons (h x List.mem_cons_self), or_iff_left none]

/-- A comment whose content holds no terminator ends with its own, and any other one ends earlier. -/
theorem afterTerminator?_eq_iff :
    afterTerminator? (body ++ '*' :: '/' :: after) = some after ↔ ¬ Terminates body := by
  have head (rest : List Char) : (rest ++ '*' :: '/' :: after).head? = some '/' ↔ rest.head? = some '/' := by
    cases rest <;> simp
  -- With a terminator in the content, more is left than what follows the last one.
  have early (body : List Char) (h : Terminates body) : ∃ rest,
      afterTerminator? (body ++ '*' :: '/' :: after) = some rest ∧ after.length < rest.length := by
    induction body with
    | nil => exact absurd h not_terminates_nil
    | cons x rest ih =>
      simp only [List.cons_append, afterTerminator?, head]
      split
      · next here =>
        obtain ⟨others, rfl⟩ := List.head?_eq_some_iff.1 here.2
        refine ⟨_, rfl, ?_⟩
        simp only [List.cons_append, List.tail_cons, List.length_append, List.length_cons]
        omega
      · next later => exact ih ((terminates_cons.1 h).resolve_left later)
  constructor
  · intro ends h
    obtain ⟨rest, ends', more⟩ := early body h
    rw [ends] at ends'
    cases ends'
    omega
  · intro h
    induction body with
    | nil => rfl
    | cons x rest ih =>
      rw [terminates_cons, not_or] at h
      simp only [List.cons_append, afterTerminator?, head, if_neg h.1, ih h.2]

/-! ## What is written of a text -/

/-- Indentation neither makes nor breaks a terminator. -/
theorem terminates_indented {ind : List Char} (blank : ∀ x ∈ ind, x ≠ '*') (fresh : Bool) :
    Terminates (Layout.indented ind fresh l) ↔ Terminates l := by
  have head (rest : List Char) : (Layout.indented ind false rest).head? = rest.head? := by
    cases rest with
    | nil => rfl
    | cons x rest =>
      rw [Layout.indented]
      split
      · next h => rw [h]; rfl
      · rfl
  have feed (rest : List Char) : Terminates ('\n' :: rest) ↔ Terminates rest := by simp [terminates_cons]
  induction l generalizing fresh with
  | nil => rfl
  | cons c rest ih =>
    have goes : Terminates (c :: Layout.indented ind false rest) ↔ Terminates (c :: rest) := by
      simp only [terminates_cons, head, ih]
    rw [Layout.indented]
    split
    · next h => simp only [h, feed, ih]
    · split
      · rw [terminates_append_of_left blank, goes]
      · exact goes

private theorem ne_of_isWhiteSpace (h : Unicode.isWhiteSpace c = true) : c ≠ '*' ∧ c ≠ '/' := by
  constructor <;> rintro rfl <;> revert h <;> decide

/-- White space at the end of a text neither makes nor breaks a terminator. -/
theorem terminates_trimEnd : Terminates (Text.trimEnd l) ↔ Terminates l := by
  have split : Text.trimEnd l ++ (l.reverse.takeWhile Unicode.isWhiteSpace).reverse = l := by
    rw [Text.trimEnd, ← List.reverse_append, List.takeWhile_append_dropWhile, List.reverse_reverse]
  conv_rhs => rw [← split]
  refine (terminates_append_of_right fun x hx => ?_).symm
  exact (ne_of_isWhiteSpace (List.mem_takeWhile_imp (List.mem_reverse.1 hx))).2

/-- White space at the ends of a text neither makes nor breaks a terminator. -/
theorem terminates_trim : Terminates (Text.trim l) ↔ Terminates l := by
  rw [Text.trim, terminates_trimEnd, Text.trimStart]
  conv_rhs => rw [← List.takeWhile_append_dropWhile (p := Unicode.isWhiteSpace) (l := l)]
  exact (terminates_append_of_left fun x hx => (ne_of_isWhiteSpace (List.mem_takeWhile_imp hx)).1).symm

/-- A terminator stands on one line. -/
theorem terminates_iff_lines : Terminates l ↔ ∃ line ∈ Text.lines l, Terminates line := by
  have joined (pieces : List (List Char)) :
      Terminates (['\n'].intercalate pieces) ↔ ∃ piece ∈ pieces, Terminates piece := by
    induction pieces with
    | nil => simp [List.intercalate]
    | cons piece rest ih =>
      cases rest with
      | nil => simp [List.intercalate]
      | cons next rest =>
        have first : ['\n'].intercalate (piece :: next :: rest) =
            piece ++ '\n' :: ['\n'].intercalate (next :: rest) := by simp [List.intercalate, List.intersperse]
        rw [first, terminates_append_parting (by decide), ih, List.exists_mem_cons_iff (a := piece)]
  have pieces : Terminates l ↔ ∃ piece ∈ Text.splitOnChar '\n' l, Terminates piece := by
    rw [← joined, Text.intercalate_splitOnChar]
  rw [pieces, Text.lines]
  split
  · next last =>
    obtain ⟨before, same⟩ := List.getLast?_eq_some_iff.1 last
    rw [same, List.dropLast_concat]
    simp
  · rfl

/-! ## Comments -/

private theorem terminates_flatMap_lines {α : Type} {f : α → List Char} {lines : List α} :
    Terminates (lines.flatMap (fun line => f line ++ ['\n']) ++ l) ↔
      (∃ line ∈ lines, Terminates (f line)) ∨ Terminates l := by
  induction lines with
  | nil => simp
  | cons line rest ih =>
    have first : (line :: rest).flatMap (fun line => f line ++ ['\n']) ++ l =
        f line ++ '\n' :: (rest.flatMap (fun line => f line ++ ['\n']) ++ l) := by simp
    rw [first, terminates_append_parting (by decide), ih, List.exists_mem_cons_iff (a := line), or_assoc]

private theorem terminates_lineText : Terminates (Documentation.lineText l).toList ↔ Terminates l := by
  rw [Documentation.lineText, String.toList_ofList, terminates_trimEnd, ← terminates_trim (l := l)]
  simp [terminates_cons]

/-- The content of a comment holds the terminators of the texts in it. -/
theorem Comment.terminates_body (c : Comment) :
    Terminates c.body ↔ ∃ text ∈ c.designTexts, Terminates text.toList := by
  cases c with
  | documentation d =>
    have link : (∃ link ∈ d.link.toList, Terminates (" * @link " ++ link).toList) ↔
        ∃ link ∈ d.link.toList, Terminates link.toList := by simp [terminates_cons]
    have description :
        (∃ line ∈ Text.lines d.description.toList, Terminates (Documentation.lineText line).toList) ↔
          Terminates d.description.toList := by
      simp only [terminates_lineText, ← terminates_iff_lines]
    have opening : Terminates (Comment.documentation d).body ↔
        Terminates ((Text.lines d.description.toList).flatMap (fun line =>
          (Documentation.lineText line).toList ++ ['\n']) ++
            (d.link.toList.flatMap (fun link => (" * @link " ++ link).toList ++ ['\n']) ++ [' '])) := by
      simp only [body, String.toList_append, String.reduceToList, List.cons_append, List.nil_append,
        List.append_assoc, terminates_cons, List.head?_cons, Option.some.injEq, Char.reduceEq, and_false,
        List.head?_append, Option.or_some, false_and, false_or]
    rw [opening, terminates_flatMap_lines, description, terminates_flatMap_lines, link, designTexts,
      List.exists_mem_cons_iff]
    simp only [terminates_cons, Char.reduceEq, false_and, not_terminates_nil, or_false]
  | placeholder name =>
    rw [body, String.toList_append, String.toList_append,
      terminates_append_of_right (List.forall_mem_ne'.2 (by simp)),
      terminates_append_of_left (List.forall_mem_ne'.2 (by simp))]
    simp [designTexts]
  | token description =>
    rw [body, String.toList_append, terminates_append_of_right (by simp), String.toList_append]
    simp [designTexts, terminates_cons]

/-- A comment ends where it is meant to exactly if no text of a design in it holds a terminator. -/
theorem afterComment?_comment (s : WriterSettings) (depth : Nat) (c : Comment) :
    afterComment? ((Span.comment depth c).text (Writer.unitOf s) ++ after) = some after ↔
      ∀ text ∈ c.designTexts, ¬ Terminates text.toList := by
  obtain ⟨before, last⟩ : ∃ before, c.body = before ++ [' '] := by
    cases c with
    | documentation d => exact ⟨_, rfl⟩
    | placeholder name => exact ⟨(" Could not convert asset \"" ++ name ++ "\"").toList, by simp [Comment.body]⟩
    | token description => exact ⟨("* " ++ description).toList, by simp [Comment.body]⟩
  have written : (Span.comment depth c).text (Writer.unitOf s) =
      '/' :: '*' :: (Layout.indented (Layout.indentation (Writer.unitOf s) depth) false c.body ++ ['*', '/']) := by
    have source : c.source = ['/', '*'] ++ (before ++ ' ' :: ['*', '/']) := by
      rw [Comment.source, last, List.append_assoc]
      rfl
    have terminator : Layout.indented (Layout.indentation (Writer.unitOf s) depth) false ['*', '/'] = ['*', '/'] :=
      Layout.indented_of_flat (by decide)
    rw [Span.text, source, Layout.indented_append_of_flat (by decide), Layout.indented_append_of_last (by decide),
      ← last, terminator]
    rfl
  have blank : ∀ x ∈ Layout.indentation (Writer.unitOf s) depth, x ≠ '*' := by
    intro x hx
    rcases Layout.mem_indentation_unitOf hx with rfl | rfl <;> decide
  rw [written]
  simp only [List.cons_append, List.append_assoc, List.nil_append, afterComment?]
  rw [afterTerminator?_eq_iff, terminates_indented blank, Comment.terminates_body]
  simp only [not_exists, not_and]

/-- A terminator in the description of a token ends the comment before the rest of it. -/
example : afterComment? ((Span.comment 0 (.token "Space */ gap")).text "  ") = some " gap */".toList := by
  decide +kernel

/-- Whether every comment among spans ends where it is meant to exactly if no text of a design in it holds a
terminator. -/
def CommentsEnd (s : WriterSettings) (spans : List Span) : Prop :=
  ∀ before depth c after, spans = before ++ .comment depth c :: after →
    (afterComment? (Span.textAll (Writer.unitOf s) (.comment depth c :: after)) =
        some (Span.textAll (Writer.unitOf s) after) ↔
      ∀ text ∈ c.designTexts, ¬ ['*', '/'] <:+: text.toList)

private theorem commentsEnd (s : WriterSettings) (spans : List Span) : CommentsEnd s spans :=
  fun _ depth c _ _ => afterComment?_comment s depth c

namespace Document

/-- A comment that holds texts of a design ends where it is meant to exactly if none of them holds a terminator.
In the component modules of a document these are the comment that documents the component, with its description
and its first link, and those in the places of assets, with the names of these; in the theme module they are the
descriptions of tokens. The comments are told apart by spans of the module, which make up its text. -/
theorem comments_end_iff (d : Document) (settings : Settings) :
    (∀ id selected descriptor written, d.module? settings id selected = some (descriptor, written) →
      Span.textAll (Writer.unitOf settings.writer) (written.spans settings) = (written.text settings).toList ∧
      (written.spans settings).filterMap Span.comment? =
        descriptor.documentation.toList.map .documentation
          ++ (Markup.leavesAll written.body).filterMap Markup.comment? ∧
      CommentsEnd settings.writer (written.spans settings)) ∧
    ∀ theme, theme = ThemeModule.ofDocument settings.theme d →
      Span.textAll (Writer.unitOf settings.writer) (theme.spans settings) = (theme.text settings).toList ∧
      (theme.spans settings).filterMap Span.comment? =
        (theme.colors.entries ++ theme.themes.flatMap (·.tokens.entries)).filterMap tokenComment? ∧
      CommentsEnd settings.writer (theme.spans settings) := by
  constructor
  · intro id selected descriptor written h
    obtain ⟨-, _, m, -, emitted⟩ := module?_eq_some_iff.1 h
    have documentation : written.documentation = descriptor.documentation := by
      obtain ⟨_, -, rfl⟩ := ComponentModule.exists_of_ofModel emitted
      dsimp only
    refine ⟨written.textAll_spans settings, ?_, commentsEnd _ _⟩
    rw [written.comments_spans, documentation]
  · rintro _ rfl
    exact ⟨ThemeModule.textAll_spans _ _, ThemeModule.comments_spans _ _, commentsEnd _ _⟩

/-- A described card with a logo that is not exported. -/
def describedCard (description : String) : Document :=
  filed [{ id := "a", name := "Card", kind := .component, children := ["b"], description },
    { id := "b", name := "Logo / dark", kind := .vector }]

/-- What is read off from a described card. -/
private theorem comments_describedCard (description : String)
    (h : ((describedCard description).module? {} "a" none).map
      (fun w => (w.2.spans {}).filterMap Span.comment?) =
        some [.documentation ⟨description, none⟩, .placeholder "Logo / dark"]) :
    ∃ descriptor written, (describedCard description).module? {} "a" none = some (descriptor, written) ∧
      (∃ before depth after,
        written.spans {} = before ++ Span.comment depth (.documentation ⟨description, none⟩) :: after) ∧
      ∃ before depth after, written.spans {} = before ++ Span.comment depth (.placeholder "Logo / dark") :: after := by
  obtain ⟨⟨descriptor, written⟩, found, comments⟩ := Option.map_eq_some_iff.1 h
  dsimp only at comments
  refine ⟨descriptor, written, found, Span.exists_of_mem_comments ?_, Span.exists_of_mem_comments ?_⟩ <;>
    rw [comments]
  · exact List.mem_cons_self
  · exact List.mem_cons_of_mem _ List.mem_cons_self

/-- Both comments of a card end where they are meant to, although its texts hold asterisks and slashes. -/
theorem comments_end_describedCard : ∃ descriptor written,
    (describedCard "2 * 3 / 4").module? {} "a" none = some (descriptor, written) ∧
    (∃ before depth after,
      written.spans {} = before ++ .comment depth (.documentation ⟨"2 * 3 / 4", none⟩) :: after ∧
      afterComment? (Span.textAll "  " (.comment depth (.documentation ⟨"2 * 3 / 4", none⟩) :: after)) =
        some (Span.textAll "  " after)) ∧
    ∃ before depth after, written.spans {} = before ++ .comment depth (.placeholder "Logo / dark") :: after ∧
      afterComment? (Span.textAll "  " (.comment depth (.placeholder "Logo / dark") :: after)) =
        some (Span.textAll "  " after) := by
  obtain ⟨descriptor, written, found, ⟨before, depth, after, split⟩, before', depth', after', split'⟩ :=
    comments_describedCard "2 * 3 / 4" (by decide +kernel)
  obtain ⟨-, -, ends⟩ := (comments_end_iff (describedCard "2 * 3 / 4") {}).1 "a" none descriptor written found
  exact ⟨descriptor, written, found,
    ⟨before, depth, after, split, (ends before depth _ after split).2 (by decide +kernel)⟩,
    before', depth', after', split', (ends before' depth' _ after' split').2 (by decide +kernel)⟩

/-- A description that holds a terminator ends the comment with it. -/
theorem comment_cut_describedCard : ∃ descriptor written before depth after,
    (describedCard "Ends */ early.").module? {} "a" none = some (descriptor, written) ∧
    written.spans {} = before ++ .comment depth (.documentation ⟨"Ends */ early.", none⟩) :: after ∧
    afterComment? (Span.textAll "  " (.comment depth (.documentation ⟨"Ends */ early.", none⟩) :: after)) ≠
      some (Span.textAll "  " after) := by
  obtain ⟨descriptor, written, found, ⟨before, depth, after, split⟩, -⟩ :=
    comments_describedCard "Ends */ early." (by decide +kernel)
  refine ⟨descriptor, written, before, depth, after, found, split, fun ends => ?_⟩
  exact (afterComment?_comment {} depth _).1 ends "Ends */ early." List.mem_cons_self (by decide +kernel)

end Document
end Handoff
