import Handoff.Proofs.Module.Written
import Handoff.Proofs.Text.Identifier
import Handoff.Theme.Module
import Mathlib.Data.List.Forall2
import Mathlib.Data.List.TakeWhile

/-!
# Objects in written themes

A theme module is made of objects: one for the colors, one for each theme, and one for the breakpoints. In an object a
token has a line with its identifier and its value, after a comment if it is described. No identifier holds a colon,
so what tokens an object has can be read off from its lines.
-/

namespace Handoff

namespace Layout

/-- The line of a token. -/
def tokenLine (s : Settings) (name : String) : TokenValue → Layout
  | .color c => line (name ++ ": " ++ s.quoted c.text ++ ",")
  | .reference token => line (name ++ ": colors." ++ token ++ ",")

/-- Whether lines are those of tokens: each has its line, and before it a comment if there is one to write. -/
inductive AreTokens (s : Settings) : List (String × Token) → List Layout → Prop
  | nil : AreTokens s [] []
  | plain {name : String} {value : TokenValue} {tokens : List (String × Token)} {lines : List Layout} :
    AreTokens s tokens lines → AreTokens s ((name, ⟨value, ""⟩) :: tokens) (tokenLine s name value :: lines)
  | commented {name comment : String} {value : TokenValue} {tokens : List (String × Token)} {lines : List Layout} :
    comment ≠ "" → AreTokens s tokens lines →
      AreTokens s ((name, ⟨value, comment⟩) :: tokens)
        (line ("/** " ++ comment ++ " */") :: tokenLine s name value :: lines)

/-- Whether a block is the object of tokens of colors. -/
inductive IsColors (s : Settings) (tokens : List (String × Token)) : Layout → Prop
  | empty : tokens = [] →
    IsColors s tokens (block "export const colors = \x7b" "\x7d;" [line "// No color variables found"])
  | object {lines : List Layout} : tokens ≠ [] → AreTokens s tokens lines →
    IsColors s tokens (block "export const colors = \x7b" "\x7d;" lines)

/-- Whether a block is the object of a theme with tokens. -/
inductive IsTheme (s : Settings) (name : String) (tokens : List (String × Token)) : Layout → Prop
  | empty : tokens = [] → IsTheme s name tokens (block ("export const " ++ name ++ "Theme = \x7b") "\x7d;"
      [line "// No local color styles or color variables found"])
  | object {lines : List Layout} : tokens ≠ [] → AreTokens s tokens lines →
    IsTheme s name tokens (block ("export const " ++ name ++ "Theme = \x7b") "\x7d;"
      [block "colors: \x7b" "\x7d," lines])

/-- The line that exports a theme by default. -/
def exporting (name : String) : Layout := line ("export default " ++ name ++ "Theme;")

/-- Whether layouts are those of a theme module: the object of colors, those of the themes, the default export if there
is one, and the object of breakpoints. -/
def IsThemeModule (s : Settings) (colors : List (String × Token)) (themes : List (String × List (String × Token)))
    (exported : Option String) (layouts : List Layout) : Prop :=
  ∃ first blocks breakpoints, IsColors s colors first ∧
    List.Forall₂ (fun theme => IsTheme s theme.1 theme.2) themes blocks ∧
    layouts = first :: blank :: blocks.flatMap (fun b => [b, blank]) ++ exported.toList.map exporting
      ++ [blank, block "export const breakpoints = \x7b" "\x7d;" breakpoints]

/-- Whether lines give a token a value. -/
def GivesToken (token : String) (lines : List Layout) : Prop :=
  ∃ value, line (token ++ ": " ++ value ++ ",") ∈ lines

/-- Whether the object of colors in layouts has a token. -/
def DeclaresColor (token : String) (layouts : List Layout) : Prop :=
  ∃ lines, block "export const colors = \x7b" "\x7d;" lines ∈ layouts ∧ GivesToken token lines

/-- Whether the theme that layouts export by default has a token. -/
def ExportsToken (token : String) (layouts : List Layout) : Prop :=
  ∃ name lines, exporting name ∈ layouts ∧
    block ("export const " ++ name ++ "Theme = \x7b") "\x7d;" [block "colors: \x7b" "\x7d," lines] ∈ layouts ∧
    GivesToken token lines

/-! ## Lines of tokens -/

variable {s : Settings} {name token : String} {tokens : List (String × Token)} {lines : List Layout}

/-- The lines that are written for tokens are theirs. -/
theorem areTokens_flatMap (s : Settings) (tokens : List (String × Token)) :
    AreTokens s tokens (tokens.flatMap (tokenLayouts s)) := by
  induction tokens with
  | nil => exact .nil
  | cons e rest ih =>
    obtain ⟨name, value, comment⟩ := e
    have own : line (name ++ ": " ++ value.text s ++ ",") = tokenLine s name value := by
      cases value <;> simp [TokenValue.text, tokenLine, ← String.toList_inj]
    rw [List.flatMap_cons, tokenLayouts, own]
    by_cases h : comment = ""
    · subst h
      exact .plain ih
    · have written : comment.isEmpty = false := by simpa using h
      rw [written]
      exact .commented h ih

private theorem tokenLine_eq (s : Settings) (name : String) (value : TokenValue) :
    ∃ text, tokenLine s name value = line (name ++ ": " ++ text ++ ",") := by
  cases value with
  | color c => exact ⟨s.quoted c.text, rfl⟩
  | reference token => exact ⟨"colors." ++ token, by simp [tokenLine, ← String.toList_inj]⟩

/-- An identifier on a line ends with the first colon. -/
private theorem eq_of_line_eq {a b x y : String} (ha : ':' ∉ a.toList) (hb : ':' ∉ b.toList)
    (h : line (a ++ ": " ++ x ++ ",") = line (b ++ ": " ++ y ++ ",")) : a = b := by
  have chars := congrArg (List.takeWhile (· ≠ ':')) (congrArg String.toList (Layout.line.inj h))
  have before {a x : String} (ha : ':' ∉ a.toList) :
      (a ++ ": " ++ x ++ ",").toList.takeWhile (· ≠ ':') = a.toList := by
    have whole : (a ++ ": " ++ x ++ ",").toList = a.toList ++ ':' :: (' ' :: x.toList ++ [',']) := by simp
    rw [whole, List.takeWhile_append_of_pos fun c hc => decide_eq_true (ne_of_mem_of_not_mem hc ha)]
    simp
  rw [before ha, before hb] at chars
  exact String.toList_inj.1 chars

private theorem line_ne_comment (token value comment : String) :
    line (token ++ ": " ++ value ++ ",") ≠ line ("/** " ++ comment ++ " */") := by
  intro h
  have chars := congrArg (fun text => text.toList.reverse.head?) (Layout.line.inj h)
  simp at chars

/-- The lines of tokens give exactly these tokens. -/
theorem AreTokens.givesToken_iff (h : AreTokens s tokens lines) (colonless : ':' ∉ token.toList)
    (others : ∀ e ∈ tokens, ':' ∉ e.1.toList) : GivesToken token lines ↔ token ∈ tokens.map Prod.fst := by
  have gives_cons {name : String} {value : TokenValue} {rest : List Layout} (plain : ':' ∉ name.toList) :
      GivesToken token (tokenLine s name value :: rest) ↔ token = name ∨ GivesToken token rest := by
    obtain ⟨text, own⟩ := tokenLine_eq s name value
    simp only [GivesToken, own, List.mem_cons, exists_or]
    refine or_congr_left ⟨fun ⟨_, same⟩ => eq_of_line_eq colonless plain same, ?_⟩
    rintro rfl
    exact ⟨text, rfl⟩
  induction h with
  | nil => simp [GivesToken]
  | plain _ ih =>
    have later := ih fun e he => others e (List.mem_cons_of_mem _ he)
    refine (gives_cons (others _ List.mem_cons_self)).trans ((or_congr_right later).trans ?_)
    simp
  | commented _ _ ih =>
    have passed {comment : String} {rest : List Layout} :
        GivesToken token (line ("/** " ++ comment ++ " */") :: rest) ↔ GivesToken token rest := by
      simp only [GivesToken, List.mem_cons, line_ne_comment, false_or]
    have later := ih fun e he => others e (List.mem_cons_of_mem _ he)
    refine passed.trans ((gives_cons (others _ List.mem_cons_self)).trans ((or_congr_right later).trans ?_))
    simp

/-- The lines of tokens hold the line of each. -/
theorem AreTokens.tokenLine_mem (h : AreTokens s tokens lines) {e : String × Token} (he : e ∈ tokens) :
    tokenLine s e.1 e.2.value ∈ lines := by
  induction h with
  | nil => cases he
  | plain _ ih =>
    rcases List.mem_cons.1 he with rfl | he
    · exact List.mem_cons_self
    · exact List.mem_cons_of_mem _ (ih he)
  | commented _ _ ih =>
    rcases List.mem_cons.1 he with rfl | he
    · exact List.mem_cons_of_mem _ List.mem_cons_self
    · exact List.mem_cons_of_mem _ (List.mem_cons_of_mem _ (ih he))

/-- A remark gives no token. -/
private theorem not_givesToken_remark {text : String} (h : text.toList.reverse.head? ≠ some ',') :
    ¬ GivesToken token [line text] := by
  rintro ⟨value, given⟩
  refine h ?_
  rw [← Layout.line.inj (List.mem_singleton.1 given)]
  simp

end Layout

/-! ## Theme modules -/

namespace ThemeModule

variable {s : Settings} {t : ThemeModule} {token : String}

private theorem isColors_colorsLayout (s : Settings) (t : ThemeModule) :
    (t.colorsLayout s).IsColors s t.colors.entries := by
  unfold colorsLayout
  split
  · next none => exact .empty (List.isEmpty_iff.1 none)
  · next some => exact .object (by simpa [OrderedMap.isEmpty] using some) (Layout.areTokens_flatMap s _)

private theorem isTheme_layout (s : Settings) (theme : Theme) :
    (theme.layout s).IsTheme s theme.name theme.tokens.entries := by
  have opening : "export const " ++ theme.name ++ "Theme = " ++ "\x7b" =
      "export const " ++ theme.name ++ "Theme = \x7b" := String.append_assoc
  rw [Theme.layout, bracedBlock, opening]
  split
  · next none => exact .empty (List.isEmpty_iff.1 none)
  · next some => exact .object (by simpa [OrderedMap.isEmpty] using some) (Layout.areTokens_flatMap s _)

/-- A theme module is written as its colors, its themes and its default export. -/
theorem isThemeModule_layouts (s : Settings) (t : ThemeModule) :
    Layout.IsThemeModule s t.colors.entries (t.themes.map fun theme => (theme.name, theme.tokens.entries)) t.exported
      (t.layouts s) := by
  obtain ⟨lines, last⟩ : ∃ lines, breakpointsLayout = .block "export const breakpoints = \x7b" "\x7d;" lines := ⟨_, rfl⟩
  refine ⟨t.colorsLayout s, t.themes.map (·.layout s), lines, isColors_colorsLayout s t, ?_, ?_⟩
  · rw [List.forall₂_map_left_iff, List.forall₂_map_right_iff]
    exact List.forall₂_same.2 fun theme _ => isTheme_layout s theme
  · rw [layouts, last, List.flatMap_map]
    rfl

private theorem mem_layouts {l : Layout} : l ∈ t.layouts s ↔ l = t.colorsLayout s ∨ l = .blank ∨
    (∃ theme ∈ t.themes, l = theme.layout s) ∨ (∃ name, t.exported = some name ∧ l = .exporting name) ∨
      l = breakpointsLayout := by
  simp only [layouts, List.mem_append, List.mem_cons, List.mem_flatMap, List.mem_map, Option.mem_toList,
    List.not_mem_nil, or_false]
  constructor
  · rintro ((((h | h) | ⟨theme, ht, h | h⟩) | ⟨name, hn, h⟩) | h | h)
    · exact .inl h
    · exact .inr (.inl h)
    · exact .inr (.inr (.inl ⟨theme, ht, h⟩))
    · exact .inr (.inl h)
    · exact .inr (.inr (.inr (.inl ⟨name, hn, h.symm⟩)))
    · exact .inr (.inl h)
    · exact .inr (.inr (.inr (.inr h)))
  · rintro (h | h | ⟨theme, ht, h⟩ | ⟨name, hn, h⟩ | h)
    · exact .inl (.inl (.inl (.inl h)))
    · exact .inl (.inl (.inl (.inr h)))
    · exact .inl (.inl (.inr ⟨theme, ht, .inl h⟩))
    · exact .inl (.inr ⟨name, hn, h.symm⟩)
    · exact .inr (.inr h)

/-- The only line is the default export. -/
private theorem exporting_mem_layouts {name : String} : .exporting name ∈ t.layouts s ↔ t.exported = some name := by
  rw [mem_layouts]
  constructor
  · rintro (h | h | ⟨theme, -, h⟩ | ⟨other, exported, h⟩ | h)
    · cases h
    · cases h
    · cases h
    · have same : name = other := by simpa [Layout.exporting, ← String.toList_inj] using h
      rw [exported, same]
    · cases h
  · exact fun exported => .inr (.inr (.inr (.inl ⟨name, exported, rfl⟩)))

private theorem themeOpening_ne {opening : String} (differs : ¬ "Theme = \x7b".toList <:+ opening.toList)
    (name : String) : "export const " ++ name ++ "Theme = \x7b" ≠ opening := by
  rintro rfl
  rw [String.toList_append] at differs
  exact differs (List.suffix_append _ _)

/-- The objects of themes are those of the module's themes. -/
private theorem theme_mem_layouts {name : String} {body : List Layout} :
    .block ("export const " ++ name ++ "Theme = \x7b") "\x7d;" body ∈ t.layouts s ↔
      ∃ theme ∈ t.themes, theme.name = name ∧
        theme.layout s = .block ("export const " ++ name ++ "Theme = \x7b") "\x7d;" body := by
  rw [mem_layouts]
  constructor
  · rintro (h | h | ⟨theme, ht, h⟩ | ⟨other, -, h⟩ | h)
    · exact absurd (Layout.block.inj h).1 (themeOpening_ne (by decide) name)
    · cases h
    · have same : "export const " ++ name ++ "Theme = \x7b" =
          "export const " ++ theme.name ++ "Theme = " ++ "\x7b" := (Layout.block.inj h).1
      have called : name = theme.name := by simpa [← String.toList_inj] using same
      exact ⟨theme, ht, called.symm, h.symm⟩
    · cases h
    · exact absurd (Layout.block.inj h).1 (themeOpening_ne (by decide) name)
  · rintro ⟨theme, ht, -, h⟩
    exact .inr (.inr (.inl ⟨theme, ht, h.symm⟩))

/-- The object of a theme with tokens has the lines of them. -/
theorem theme_lines {theme : Theme} (ht : theme ∈ t.themes) (nonempty : theme.tokens.entries ≠ []) :
    ∃ lines, Layout.AreTokens s theme.tokens.entries lines ∧
      .block ("export const " ++ theme.name ++ "Theme = \x7b") "\x7d;" [.block "colors: \x7b" "\x7d," lines] ∈
        t.layouts s := by
  have own := isTheme_layout s theme
  generalize hl : theme.layout s = l at own
  cases own with
  | empty none => exact absurd none nonempty
  | @object lines _ tokens => exact ⟨lines, tokens, theme_mem_layouts.2 ⟨theme, ht, rfl, hl⟩⟩

/-- The object of colors has a token where it is read if and only if it is among the colors. -/
theorem declaresColor_layouts_iff (colonless : ':' ∉ token.toList) (others : ∀ e ∈ t.colors.entries, ':' ∉ e.1.toList) :
    Layout.DeclaresColor token (t.layouts s) ↔ token ∈ t.colors.keys := by
  have own := isColors_colorsLayout s t
  have listed := (mem_layouts (t := t) (s := s)).2 (.inl rfl)
  constructor
  · rintro ⟨lines, object, gives⟩
    have layout : t.colorsLayout s = .block "export const colors = \x7b" "\x7d;" lines := by
      rcases mem_layouts.1 object with h | h | ⟨theme, -, h⟩ | ⟨_, -, h⟩ | h
      · exact h.symm
      · cases h
      · have same : "export const colors = \x7b" = "export const " ++ theme.name ++ "Theme = " ++ "\x7b" :=
          (Layout.block.inj h).1
        exact absurd (String.append_assoc ▸ same.symm) (themeOpening_ne (by decide) theme.name)
      · cases h
      · exact absurd (Layout.block.inj h).1 (by decide)
    rw [layout] at own
    cases own with
    | empty none => exact absurd gives (Layout.not_givesToken_remark (by decide))
    | object _ tokens => exact (tokens.givesToken_iff colonless others).1 gives
  · intro has
    generalize t.colorsLayout s = l at own listed
    cases own with
    | empty none =>
      rw [OrderedMap.keys, none] at has
      cases has
    | @object lines _ tokens => exact ⟨lines, listed, (tokens.givesToken_iff colonless others).2 has⟩

/-- The theme that a module exports by default has a token where it is read if and only if the module has a theme of
the exported name with the token. -/
theorem exportsToken_layouts_iff (colonless : ':' ∉ token.toList)
    (others : ∀ theme ∈ t.themes, ∀ e ∈ theme.tokens.entries, ':' ∉ e.1.toList) :
    Layout.ExportsToken token (t.layouts s) ↔
      ∃ theme ∈ t.themes, t.exported = some theme.name ∧ token ∈ theme.tokens.keys := by
  unfold Layout.ExportsToken
  constructor
  · rintro ⟨name, lines, exported, object, gives⟩
    obtain ⟨theme, ht, rfl, layout⟩ := theme_mem_layouts.1 object
    refine ⟨theme, ht, exporting_mem_layouts.1 exported, ?_⟩
    have own := isTheme_layout s theme
    rw [layout] at own
    cases own with
    | object _ tokens => exact (tokens.givesToken_iff colonless (others theme ht)).1 gives
  · rintro ⟨theme, ht, exported, has⟩
    obtain ⟨e, he, -⟩ := List.mem_map.1 has
    obtain ⟨lines, tokens, object⟩ := theme_lines (s := s) ht (List.ne_nil_of_mem he)
    exact ⟨theme.name, lines, exporting_mem_layouts.2 exported, object,
      (tokens.givesToken_iff colonless (others theme ht)).2 has⟩

end ThemeModule
end Handoff
