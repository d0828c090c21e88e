import Handoff.Proofs.Module.Written
import Handoff.Theme.Module

/-!
# Spans of written text

A module is written as plain text in which spans come from a design: comments, which hold descriptions, links and
the names of assets, and what text elements show. The spans of a module, one after the other, are its text, and
those of a design are in it in the order of what they come from: the documentation, the elements of the markup,
and the tokens of a theme.
-/

namespace Handoff

/-- A comment that a module holds for texts of a design. -/
inductive Comment where
  | documentation (documentation : Documentation)
  /-- The comment in the place of an asset. -/
  | placeholder (name : String)
  /-- The comment of a token. -/
  | token (description : String)
  deriving DecidableEq, Repr

namespace Comment

/-- The texts of a design that a comment holds. -/
def designTexts : Comment → List String
  | documentation d => d.description :: d.link.toList
  | placeholder name => [name]
  | token description => [description]

/-- The characters of a comment between its opening and its terminator, where nothing is indented. -/
def body : Comment → List Char
  | documentation d =>
    '*' :: '\n' :: ((Text.lines d.description.toList).flatMap fun line =>
        (Documentation.lineText line).toList ++ ['\n'])
      ++ (d.link.toList.flatMap fun link => (" * @link " ++ link).toList ++ ['\n']) ++ [' ']
  | placeholder name => (" Could not convert asset \"" ++ name ++ "\" ").toList
  | token description => ("* " ++ description ++ " ").toList

/-- The characters of a comment, where nothing is indented. -/
def source (c : Comment) : List Char := '/' :: '*' :: (c.body ++ ['*', '/'])

end Comment

/-- A part of a written module. -/
inductive Span where
  | plain (text : List Char)
  | comment (depth : Nat) (comment : Comment)
  /-- All that stands between the tags of a text element at a depth. -/
  | content (depth : Nat) (content : TextContent)

namespace Span

open Layout (indented indentation lineChars chars charsAll)

/-- The characters of a span. -/
def text (unit : String) : Span → List Char
  | plain text => text
  | comment depth c => indented (indentation unit depth) false c.source
  | content depth c => '\n' :: (lineChars unit (depth + 1) c.text ++ indentation unit depth)

/-- The characters of spans, one after the other. -/
def textAll (unit : String) (spans : List Span) : List Char := spans.flatMap (text unit)

/-- The comment that a span is. -/
def comment? : Span → Option Comment
  | comment _ c => some c
  | _ => none

/-- The content that a span is. -/
def content? : Span → Option TextContent
  | content _ c => some c
  | _ => none

@[simp] theorem comment?_plain (text : List Char) : (plain text).comment? = none := rfl

@[simp] theorem content?_plain (text : List Char) : (plain text).content? = none := rfl

/-- A line that holds a comment between other characters. -/
def commentLine (unit : String) (depth : Nat) (before : String) (c : Comment) (after : String) : List Span :=
  [plain (indentation unit depth ++ before.toList), comment depth c, plain (after.toList ++ ['\n'])]

end Span

/-- A comment that is among those of spans stands between others of them. -/
theorem Span.exists_of_mem_comments {spans : List Span} {c : Comment} (h : c ∈ spans.filterMap comment?) :
    ∃ before depth after, spans = before ++ .comment depth c :: after := by
  obtain ⟨span, mem, same⟩ := List.mem_filterMap.1 h
  obtain ⟨before, after, split⟩ := List.append_of_mem mem
  cases span with
  | comment depth c' =>
    cases same
    exact ⟨before, depth, after, split⟩
  | plain => cases same
  | content => cases same

open Handoff.Span (textAll commentLine)
open Layout (indented indentation lineChars chars charsAll charsAll_append)

/-! ## The spans of modules -/

namespace Markup

/-- The spans of a text element. -/
def textSpans (unit : String) (depth : Nat) (tag : Primitive) (looks : Option StyleRef) (content : TextContent) :
    List Span :=
  [.plain (indented (indentation unit depth) true (openingText tag looks).toList), .content depth content,
    .plain ((closingText tag).toList ++ ['\n'])]

mutual

/-- The spans of an element. -/
def spans (s : Settings) (unit : String) (depth : Nat) (inExpression : Bool) : Markup → List Span
  | slot prop => [.plain (chars unit depth (layout s inExpression (slot prop)))]
  | image width height data => [.plain (chars unit depth (layout s inExpression (image width height data)))]
  | missing name =>
    if inExpression then commentLine unit depth "null " (.placeholder name) ""
    else commentLine unit depth "\x7b" (.placeholder name) "\x7d"
  | icon name size => [.plain (chars unit depth (layout s inExpression (icon name size)))]
  | use component attributes => [.plain (chars unit depth (layout s inExpression (use component attributes)))]
  | text tag looks content => textSpans unit depth tag looks content
  | empty tag looks => [.plain (chars unit depth (layout s inExpression (empty tag looks)))]
  | container tag looks children =>
    .plain (lineChars unit depth (openingText tag looks)) :: spansAll s unit (depth + 1) children
      ++ [.plain (lineChars unit depth (closingText tag))]

/-- The spans of elements. -/
def spansAll (s : Settings) (unit : String) (depth : Nat) : List (Option String × Markup) → List Span
  | [] => []
  | (none, element) :: rest => spans s unit depth false element ++ spansAll s unit depth rest
  | (some prop, element) :: rest =>
    .plain (lineChars unit depth ("\x7b" ++ propText prop ++ " &&")) :: spans s unit (depth + 1) true element
      ++ .plain (lineChars unit depth "\x7d") :: spansAll s unit depth rest

end

end Markup

/-- The spans of the comment that documents a component. -/
def Documentation.spans (d : Documentation) : List Span := [.comment 0 (.documentation d), .plain ['\n']]

/-- The spans of a component module. -/
def ComponentModule.spans (s : Settings) (m : ComponentModule) : List Span :=
  let unit := Writer.unitOf s.writer
  [.plain (charsAll unit 0 (m.imports.map (fun i => .line (i.text s)) ++ [.blank] ++ m.interfaceLayouts s))]
    ++ (m.documentation.map (·.spans)).getD []
    ++ [.plain (lineChars unit 0 ("export function " ++ m.name ++ "(" ++ m.parameterText ++ ") " ++ "\x7b")
        ++ charsAll unit 1 (m.classLayouts s) ++ lineChars unit 1 "return ("
        ++ lineChars unit 2 (Markup.openingText m.rootTag (some m.rootLooks)))]
    ++ Markup.spansAll s unit 3 m.body
    ++ [.plain (lineChars unit 2 (Markup.closingText m.rootTag) ++ lineChars unit 1 ");" ++ lineChars unit 0 "\x7d"
        ++ charsAll unit 0 [.blank, m.sheetLayout s])]

/-- The spans of a token. -/
def tokenSpans (s : Settings) (unit : String) (depth : Nat) (e : String × Token) : List Span :=
  (if e.2.comment.isEmpty then [] else commentLine unit depth "" (.token e.2.comment) "")
    ++ [.plain (lineChars unit depth (e.1 ++ ": " ++ e.2.value.text s ++ ","))]

/-- The spans of a theme. -/
def Theme.spans (s : Settings) (unit : String) (t : Theme) : List Span :=
  if t.tokens.isEmpty then [.plain (chars unit 0 (t.layout s))]
  else
    [.plain (lineChars unit 0 ("export const " ++ t.name ++ "Theme = " ++ "\x7b")
        ++ lineChars unit 1 ("colors: " ++ "\x7b"))]
      ++ t.tokens.entries.flatMap (tokenSpans s unit 2)
      ++ [.plain (lineChars unit 1 ("\x7d" ++ ",") ++ lineChars unit 0 ("\x7d" ++ ";"))]

namespace ThemeModule

/-- The spans of the `colors` object. -/
def colorsSpans (s : Settings) (unit : String) (t : ThemeModule) : List Span :=
  if t.colors.isEmpty then [.plain (chars unit 0 (t.colorsLayout s))]
  else
    [.plain (lineChars unit 0 ("export const colors = " ++ "\x7b"))]
      ++ t.colors.entries.flatMap (tokenSpans s unit 1) ++ [.plain (lineChars unit 0 ("\x7d" ++ ";"))]

/-- The spans of a theme module. -/
def spans (s : Settings) (t : ThemeModule) : List Span :=
  let unit := Writer.unitOf s.writer
  t.colorsSpans s unit ++ [.plain ['\n']] ++ t.themes.flatMap (fun theme => theme.spans s unit ++ [.plain ['\n']])
    ++ [.plain (charsAll unit 0 ((t.exported.toList.map fun name => .line ("export default " ++ name ++ "Theme;"))
      ++ [.blank, breakpointsLayout]))]

end ThemeModule

/-! ## Their text -/

section

variable {s : Settings} {unit : String} {depth : Nat}

@[simp] theorem textAll_nil : textAll unit [] = [] := rfl

@[simp] theorem textAll_cons (span : Span) (rest : List Span) :
    textAll unit (span :: rest) = span.text unit ++ textAll unit rest := rfl

@[simp] theorem textAll_append (a b : List Span) : textAll unit (a ++ b) = textAll unit a ++ textAll unit b :=
  List.flatMap_append

/-- A line that holds a comment is written as its spans. -/
theorem textAll_commentLine (c : Comment) {before after : String} (flat : '\n' ∉ before.toList)
    (flatAfter : '\n' ∉ after.toList) {line : String}
    (h : line.toList = before.toList ++ (c.source ++ after.toList)) :
    textAll unit (commentLine unit depth before c after) = lineChars unit depth line := by
  have first : ∃ x rest, before.toList ++ (c.source ++ after.toList) = x :: rest ∧ x ≠ '\n' := by
    cases hb : before.toList with
    | nil => exact ⟨'/', _, rfl, by decide⟩
    | cons x rest => exact ⟨x, _, rfl, fun same => flat (by simp [hb, same])⟩
  have last : c.source ++ after.toList = ('/' :: '*' :: (c.body ++ ['*'])) ++ '/' :: after.toList := by
    simp [Comment.source]
  have source : c.source = ('/' :: '*' :: (c.body ++ ['*'])) ++ ['/'] := by simp [Comment.source]
  rw [lineChars, h, Layout.indented_of_head first, Layout.indented_append_of_flat flat, last,
    Layout.indented_append_of_last (by decide), ← source, Layout.indented_of_flat flatAfter]
  simp [commentLine, Span.text]

private theorem textAll_missing (inExpression : Bool) (name : String) :
    textAll unit (Markup.spans s unit depth inExpression (.missing name)) =
      chars unit depth (Markup.layout s inExpression (.missing name)) := by
  have source : (Markup.missingText name).toList = (Comment.placeholder name).source := by
    unfold Markup.missingText
    simp [Comment.source, Comment.body]
  have line (before after line : String) (flat : '\n' ∉ before.toList) (flatAfter : '\n' ∉ after.toList)
      (h : line.toList = before.toList ++ ((Markup.missingText name).toList ++ after.toList)) :
      textAll unit (commentLine unit depth before (.placeholder name) after) = lineChars unit depth line :=
    textAll_commentLine _ flat flatAfter (source ▸ h)
  rw [Markup.spans, Markup.layout, chars]
  cases inExpression with
  | true =>
    rw [if_pos rfl, if_pos rfl]
    exact line "null " "" _ (by decide) (by decide) (by simp)
  | false =>
    rw [if_neg Bool.false_ne_true, if_neg Bool.false_ne_true]
    exact line "\x7b" "\x7d" _ (by decide) (by decide) (by simp [braced])

private theorem textAll_text (tag : Primitive) (looks : Option StyleRef) (content : TextContent) :
    textAll unit (Markup.textSpans unit depth tag looks content) =
      chars unit depth (.block (Markup.openingText tag looks) (Markup.closingText tag) [.line content.text]) := by
  have closing : indented (indentation unit depth) true (Markup.closingText tag).toList =
      indentation unit depth ++ (Markup.closingText tag).toList := by
    have flat : '\n' ∉ (Markup.closingText tag).toList := by cases tag <;> decide
    have first : ∃ c rest, (Markup.closingText tag).toList = c :: rest ∧ c ≠ '\n' := by
      cases tag <;> exact ⟨'<', _, rfl, by decide⟩
    rw [Layout.indented_of_head first, Layout.indented_of_flat flat]
  rw [chars, charsAll, charsAll, lineChars, lineChars, closing]
  simp [Markup.textSpans, Span.text, lineChars, chars]

namespace Markup

mutual

/-- An element is written as its spans. -/
theorem textAll_spans (depth : Nat) (inExpression : Bool) : ∀ element : Markup,
    textAll unit (spans s unit depth inExpression element) = chars unit depth (layout s inExpression element)
  | slot _ => List.append_nil _
  | image _ _ _ => List.append_nil _
  | missing name => textAll_missing inExpression name
  | icon _ _ => List.append_nil _
  | use _ _ => List.append_nil _
  | text tag looks content => textAll_text tag looks content
  | empty _ _ => List.append_nil _
  | container tag looks children => by
    rw [spans, layout, chars]
    simp only [textAll_append, textAll_cons, textAll_nil, textAll_spansAll, Span.text, List.append_nil]

/-- Elements are written as their spans. -/
theorem textAll_spansAll (depth : Nat) : ∀ elements : List (Option String × Markup),
    textAll unit (spansAll s unit depth elements) = charsAll unit depth (layoutAll s elements)
  | [] => rfl
  | (none, element) :: rest => by
    rw [spansAll, layoutAll, charsAll, textAll_append, textAll_spans, textAll_spansAll]
  | (some prop, element) :: rest => by
    rw [spansAll, layoutAll, charsAll, textAll_append]
    simp only [textAll_cons, textAll_spans, textAll_spansAll, chars, charsAll, List.append_nil, Span.text,
      List.append_assoc]

end

end Markup

private theorem textAll_tokenSpans (e : String × Token) :
    textAll unit (tokenSpans s unit depth e) = charsAll unit depth (tokenLayouts s e) := by
  have line (text : String) : charsAll unit depth [.line text] = lineChars unit depth text := by
    simp [charsAll, chars]
  rw [tokenSpans, tokenLayouts, textAll_append, charsAll_append, line]
  congr 1
  · split
    · rfl
    · rw [line]
      exact textAll_commentLine _ (by decide) (by decide) (by simp [Comment.source, Comment.body])
  · simp [Span.text]

private theorem textAll_flatMap {α : Type} {f : α → List Span} {g : α → List Layout}
    (h : ∀ a, textAll unit (f a) = charsAll unit depth (g a)) (l : List α) :
    textAll unit (l.flatMap f) = charsAll unit depth (l.flatMap g) := by
  induction l with
  | nil => rfl
  | cons a rest ih => rw [List.flatMap_cons, List.flatMap_cons, textAll_append, charsAll_append, h, ih]

private theorem textAll_documentation (d : Documentation) :
    textAll unit d.spans = charsAll unit 0 d.layouts := by
  simp [Documentation.spans, Documentation.layouts, Layout.charsAll_eq_flatMap, chars, Span.text, Comment.source,
    Comment.body, Layout.indentation, List.flatMap_map]

/-- The spans of a component module are its text. -/
theorem ComponentModule.textAll_spans (s : Settings) (m : ComponentModule) :
    textAll (Writer.unitOf s.writer) (m.spans s) = (m.text s).toList := by
  have documentation : textAll (Writer.unitOf s.writer) ((m.documentation.map (·.spans)).getD []) =
      charsAll (Writer.unitOf s.writer) 0 ((m.documentation.map (·.layouts)).getD []) := by
    cases m.documentation with
    | none => rfl
    | some d => exact textAll_documentation d
  rw [ComponentModule.text, Layout.toList_render, layouts, spans]
  simp only [textAll_append, textAll_cons, textAll_nil, documentation, Markup.textAll_spansAll, Span.text,
    charsAll_append, functionLayout, rootLayout, bracedBlock, charsAll, chars, List.append_nil, List.append_assoc,
    String.append_empty]

private theorem textAll_theme (t : Theme) : textAll unit (t.spans s unit) = chars unit 0 (t.layout s) := by
  rw [Theme.spans]
  split
  · exact List.append_nil _
  · next some =>
    rw [Theme.layout, if_neg some]
    simp only [textAll_append, textAll_cons, textAll_nil, textAll_flatMap textAll_tokenSpans, Span.text, bracedBlock,
      charsAll, chars, List.append_nil, List.append_assoc]

private theorem textAll_colors (t : ThemeModule) :
    textAll unit (t.colorsSpans s unit) = chars unit 0 (t.colorsLayout s) := by
  rw [ThemeModule.colorsSpans]
  split
  · exact List.append_nil _
  · next some =>
    rw [ThemeModule.colorsLayout, if_neg some]
    simp only [textAll_append, textAll_cons, textAll_nil, textAll_flatMap textAll_tokenSpans, Span.text, bracedBlock,
      chars, List.append_nil, List.append_assoc]

/-- The spans of a theme module are its text. -/
theorem ThemeModule.textAll_spans (s : Settings) (t : ThemeModule) :
    textAll (Writer.unitOf s.writer) (t.spans s) = (t.text s).toList := by
  have theme (t : Theme) : textAll (Writer.unitOf s.writer) (t.spans s (Writer.unitOf s.writer) ++ [.plain ['\n']]) =
      charsAll (Writer.unitOf s.writer) 0 [t.layout s, .blank] := by
    rw [textAll_append, textAll_theme]
    rfl
  rw [ThemeModule.text, Layout.toList_render, layouts, spans]
  simp only [textAll_append, textAll_cons, textAll_nil, textAll_colors, textAll_flatMap theme, Span.text,
    charsAll_append, charsAll, chars, List.append_nil, List.append_assoc, List.cons_append, List.nil_append]

end

/-! ## What the spans come from -/

namespace Markup

mutual

/-- The elements in an element that hold no others. -/
def leaves : Markup → List Markup
  | container _ _ children => leavesAll children
  | element => [element]

/-- The elements in elements that hold no others. -/
def leavesAll : List (Option String × Markup) → List Markup
  | [] => []
  | (_, element) :: rest => leaves element ++ leavesAll rest

end

/-- The comment that an element is. -/
def comment? : Markup → Option Comment
  | missing name => some (.placeholder name)
  | _ => none

/-- What an element shows as a text. -/
def content? : Markup → Option TextContent
  | text _ _ content => some content
  | _ => none

section

variable {s : Settings} {unit : String} {α : Type} {ofSpan : Span → Option α} {ofLeaf : Markup → Option α}

/-- Whether the same is read off from an element that is no container and from its spans. -/
def Agrees (s : Settings) (unit : String) (ofSpan : Span → Option α) (ofLeaf : Markup → Option α) : Prop :=
  ∀ depth inExpression (element : Markup), (∀ tag looks children, element ≠ container tag looks children) →
    (spans s unit depth inExpression element).filterMap ofSpan = (ofLeaf element).toList

private theorem Agrees.filterMap_eq (agrees : Agrees s unit ofSpan ofLeaf) {depth : Nat} {inExpression : Bool}
    {element : Markup} (alone : ∀ tag looks children, element ≠ container tag looks children)
    (h : element.leaves = [element]) :
    (spans s unit depth inExpression element).filterMap ofSpan = element.leaves.filterMap ofLeaf := by
  rw [agrees depth inExpression element alone, h, List.filterMap_cons, List.filterMap_nil]
  cases ofLeaf element <;> rfl

mutual

/-- What is read off from spans but those of plain text is read off from the elements that hold no others. -/
theorem filterMap_spans (plain : ∀ text, ofSpan (.plain text) = none) (agrees : Agrees s unit ofSpan ofLeaf)
    (depth : Nat) (inExpression : Bool) : ∀ element : Markup,
    (spans s unit depth inExpression element).filterMap ofSpan = element.leaves.filterMap ofLeaf
  | container tag looks children => by
    simp [spans, leaves, plain, filterMap_spansAll plain agrees]
  | slot _ => agrees.filterMap_eq nofun rfl
  | image _ _ _ => agrees.filterMap_eq nofun rfl
  | missing _ => agrees.filterMap_eq nofun rfl
  | icon _ _ => agrees.filterMap_eq nofun rfl
  | use _ _ => agrees.filterMap_eq nofun rfl
  | text _ _ _ => agrees.filterMap_eq nofun rfl
  | empty _ _ => agrees.filterMap_eq nofun rfl

/-- What is read off from spans of elements is read off from the elements that hold no others. -/
theorem filterMap_spansAll (plain : ∀ text, ofSpan (.plain text) = none) (agrees : Agrees s unit ofSpan ofLeaf)
    (depth : Nat) : ∀ elements : List (Option String × Markup),
    (spansAll s unit depth elements).filterMap ofSpan = (leavesAll elements).filterMap ofLeaf
  | [] => rfl
  | (none, element) :: rest => by
    simp [spansAll, leavesAll, filterMap_spans plain agrees, filterMap_spansAll plain agrees]
  | (some prop, element) :: rest => by
    simp [spansAll, leavesAll, plain, filterMap_spans plain agrees, filterMap_spansAll plain agrees]

end

private theorem exists_spans_self {leaf element : Markup} (depth : Nat) (inExpression : Bool) (h : leaf = element) :
    ∃ depth' inExpression', spans s unit depth' inExpression' leaf <:+: spans s unit depth inExpression element :=
  ⟨depth, inExpression, h ▸ List.infix_refl _⟩

mutual

/-- The spans of an element in another one that holds no others are among those of the other one. -/
theorem exists_spans_of_mem_leaves {leaf : Markup} (depth : Nat) (inExpression : Bool) : ∀ {element : Markup},
    leaf ∈ element.leaves →
      ∃ depth' inExpression', spans s unit depth' inExpression' leaf <:+: spans s unit depth inExpression element
  | container tag looks children, h => by
    obtain ⟨depth', inExpression', part⟩ := exists_spans_of_mem_leavesAll (depth + 1) h
    refine ⟨depth', inExpression', part.trans ?_⟩
    rw [spans]
    exact (List.suffix_cons _ _).isInfix.trans (List.prefix_append _ _).isInfix
  | slot _, h => exists_spans_self depth inExpression (List.mem_singleton.1 h)
  | image _ _ _, h => exists_spans_self depth inExpression (List.mem_singleton.1 h)
  | missing _, h => exists_spans_self depth inExpression (List.mem_singleton.1 h)
  | icon _ _, h => exists_spans_self depth inExpression (List.mem_singleton.1 h)
  | use _ _, h => exists_spans_self depth inExpression (List.mem_singleton.1 h)
  | text _ _ _, h => exists_spans_self depth inExpression (List.mem_singleton.1 h)
  | empty _ _, h => exists_spans_self depth inExpression (List.mem_singleton.1 h)

/-- The spans of an element in others that holds no others are among those of the others. -/
theorem exists_spans_of_mem_leavesAll {leaf : Markup} (depth : Nat) : ∀ {elements : List (Option String × Markup)},
    leaf ∈ leavesAll elements →
      ∃ depth' inExpression', spans s unit depth' inExpression' leaf <:+: spansAll s unit depth elements
  | (none, element) :: rest, h => by
    rw [spansAll]
    rcases List.mem_append.1 h with h | h
    · obtain ⟨depth', inExpression', part⟩ := exists_spans_of_mem_leaves depth false h
      exact ⟨depth', inExpression', part.trans (List.prefix_append _ _).isInfix⟩
    · obtain ⟨depth', inExpression', part⟩ := exists_spans_of_mem_leavesAll depth h
      exact ⟨depth', inExpression', part.trans (List.suffix_append _ _).isInfix⟩
  | (some prop, element) :: rest, h => by
    rw [spansAll]
    rcases List.mem_append.1 h with h | h
    · obtain ⟨depth', inExpression', part⟩ := exists_spans_of_mem_leaves (depth + 1) true h
      exact ⟨depth', inExpression', part.trans
        ((List.suffix_cons _ _).isInfix.trans (List.prefix_append _ _).isInfix)⟩
    · obtain ⟨depth', inExpression', part⟩ := exists_spans_of_mem_leavesAll depth h
      exact ⟨depth', inExpression', part.trans
        ((List.suffix_cons _ _).isInfix.trans (List.suffix_append _ _).isInfix)⟩

end

/-- The comments in spans of elements are those of the elements. -/
theorem comments_spansAll (depth : Nat) (elements : List (Option String × Markup)) :
    (spansAll s unit depth elements).filterMap Span.comment? = (leavesAll elements).filterMap comment? := by
  refine filterMap_spansAll (fun _ => rfl) (fun depth inExpression element alone => ?_) depth elements
  cases element with
  | missing name => cases inExpression <;> rfl
  | container tag looks children => exact absurd rfl (alone tag looks children)
  | _ => rfl

/-- The contents in spans of elements are those of the elements. -/
theorem contents_spansAll (depth : Nat) (elements : List (Option String × Markup)) :
    (spansAll s unit depth elements).filterMap Span.content? = (leavesAll elements).filterMap content? := by
  refine filterMap_spansAll (fun _ => rfl) (fun depth inExpression element alone => ?_) depth elements
  cases element with
  | missing name => cases inExpression <;> rfl
  | container tag looks children => exact absurd rfl (alone tag looks children)
  | _ => rfl

end

end Markup

section

variable {s : Settings} {unit : String} {depth : Nat}

/-- The comments of a component module: the one that documents it, and those of its elements. -/
theorem ComponentModule.comments_spans (s : Settings) (m : ComponentModule) :
    (m.spans s).filterMap Span.comment? =
      m.documentation.toList.map .documentation ++ (Markup.leavesAll m.body).filterMap Markup.comment? := by
  have documentation : ((m.documentation.map (·.spans)).getD []).filterMap Span.comment? =
      m.documentation.toList.map .documentation := by
    cases m.documentation <;> rfl
  simp only [spans, List.filterMap_append, List.filterMap_cons, List.filterMap_nil, Span.comment?_plain,
    documentation, Markup.comments_spansAll, List.nil_append, List.append_nil]

/-- The contents of a component module are those of its elements. -/
theorem ComponentModule.contents_spans (s : Settings) (m : ComponentModule) :
    (m.spans s).filterMap Span.content? = (Markup.leavesAll m.body).filterMap Markup.content? := by
  have documentation : ((m.documentation.map (·.spans)).getD []).filterMap Span.content? = [] := by
    cases m.documentation <;> rfl
  simp only [spans, List.filterMap_append, List.filterMap_cons, List.filterMap_nil, Span.content?_plain,
    documentation, Markup.contents_spansAll, List.nil_append, List.append_nil]

/-- The spans of an element of a component module that holds no others are among those of the module. -/
theorem ComponentModule.exists_spans_of_mem_leavesAll {s : Settings} {m : ComponentModule} {leaf : Markup}
    (h : leaf ∈ Markup.leavesAll m.body) :
    ∃ depth inExpression, leaf.spans s (Writer.unitOf s.writer) depth inExpression <:+: m.spans s := by
  obtain ⟨depth, inExpression, part⟩ := Markup.exists_spans_of_mem_leavesAll 3 h
  exact ⟨depth, inExpression, part.trans
    ((List.suffix_append _ _).isInfix.trans (List.prefix_append _ _).isInfix)⟩

/-- The comment of a token, if it has one. -/
def tokenComment? (e : String × Token) : Option Comment :=
  if e.2.comment.isEmpty then none else some (.token e.2.comment)

private theorem comments_tokens (entries : List (String × Token)) :
    (entries.flatMap (tokenSpans s unit depth)).filterMap Span.comment? = entries.filterMap tokenComment? := by
  induction entries with
  | nil => rfl
  | cons e rest ih =>
    rw [List.flatMap_cons, List.filterMap_append, ih, List.filterMap_cons, tokenSpans, tokenComment?]
    split <;> rfl

/-- The comments of a theme module are those of its tokens. -/
theorem ThemeModule.comments_spans (s : Settings) (t : ThemeModule) :
    (t.spans s).filterMap Span.comment? =
      (t.colors.entries ++ t.themes.flatMap (·.tokens.entries)).filterMap tokenComment? := by
  have colors : (t.colorsSpans s (Writer.unitOf s.writer)).filterMap Span.comment? =
      t.colors.entries.filterMap tokenComment? := by
    rw [colorsSpans]
    split
    · next none => rw [List.isEmpty_iff.1 none]; rfl
    · simp only [List.filterMap_append, List.filterMap_cons, List.filterMap_nil, Span.comment?_plain, comments_tokens,
        List.nil_append, List.append_nil]
  have theme (t : Theme) : (t.spans s (Writer.unitOf s.writer)).filterMap Span.comment? =
      t.tokens.entries.filterMap tokenComment? := by
    rw [Theme.spans]
    split
    · next none => rw [List.isEmpty_iff.1 none]; rfl
    · simp only [List.filterMap_append, List.filterMap_cons, List.filterMap_nil, Span.comment?_plain, comments_tokens,
        List.nil_append, List.append_nil]
  simp only [spans, List.filterMap_append, List.filterMap_cons, List.filterMap_nil, Span.comment?_plain,
    List.filterMap_flatMap, colors, theme, List.append_nil]

end
end Handoff
