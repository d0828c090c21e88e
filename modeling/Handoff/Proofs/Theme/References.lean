import Handoff.Proofs.Theme.Token

/-!
# References of themes

A theme refers to the `colors` object for every color that its collection gives as an alias of an existing
variable. The object has the colors of the collection of colors only. So a reference is declared where that
collection lists a color variable of the same identifier that has a color, and otherwise it leads nowhere:
an alias within the theme collection is the plainest case.
-/

namespace Handoff.Document

variable {d : Document} {s : ThemeSettings}

/-- Whether a variable is an alias of an existing one in a mode. -/
def IsAlias (d : Document) (modeId : String) (v target : Variable) : Prop :=
  ∃ id, v.valuesByMode.get? modeId = some (.alias id) ∧ d.variableById? id = some target

/-- Whether the collection of colors lists a color variable of an identifier that has a color in the
collection's default mode, or else in the first of its own. -/
def GivesColor (d : Document) (s : ThemeSettings) (token : String) : Prop :=
  ∃ c, d.collectionNamed? s.colorCollection = some c ∧ ∃ v ∈ d.colorVariables c,
    (d.variableColor? v c.defaultModeId).isSome = true ∧ token = Text.camelIdentifier v.name

/-- The `colors` object has the colors of the collection of colors. -/
theorem colors_ofDocument : (ThemeModule.ofDocument s d).colors =
    ((d.collectionNamed? s.colorCollection).map d.colorTokens).getD .empty := by
  unfold ThemeModule.ofDocument
  split <;> rfl

/-- The tokens of the `colors` object are those that the document gives it. -/
theorem mem_keys_colors {token : String} :
    token ∈ (ThemeModule.ofDocument s d).colors.keys ↔ d.GivesColor s token := by
  rw [colors_ofDocument, GivesColor]
  cases d.collectionNamed? s.colorCollection with
  | none => simp
  | some c =>
    simp only [Option.map_some, Option.getD_some, Option.some.injEq, exists_eq_left', colorTokens,
      OrderedMap.mem_keys_ofList, List.mem_map, List.mem_filterMap, colorToken?, Option.map_eq_some_iff,
      Option.isSome_iff_exists]
    constructor
    · rintro ⟨_, ⟨v, listed, color, has, rfl⟩, rfl⟩
      exact ⟨v, listed, ⟨color, has⟩, rfl⟩
    · rintro ⟨v, listed, ⟨color, has⟩, rfl⟩
      exact ⟨_, ⟨v, listed, color, has, rfl⟩, rfl⟩

/-- Where the token of a variable is a reference, the variable is an alias of an existing one. -/
private theorem isAlias_of_themeToken? {modeId token : String} {v : Variable} {e : String × Token}
    (h : d.themeToken? modeId v = some e) (refers : e.2.value = .reference token) :
    ∃ target, d.IsAlias modeId v target ∧ e.1 = Text.camelIdentifier v.name ∧
      e.2.comment = v.description ∧ token = Text.camelIdentifier target.name := by
  obtain ⟨value, valued, rfl⟩ := Option.map_eq_some_iff.1 h
  obtain ⟨given, inMode, valued⟩ := Option.bind_eq_some_iff.1 valued
  obtain rfl : value = .reference token := refers
  cases given with
  | «alias» id =>
    obtain ⟨target, found, same⟩ := Option.map_eq_some_iff.1 valued
    cases same
    exact ⟨target, ⟨id, inMode, found⟩, rfl, rfl, rfl⟩
  | color => cases valued
  | float => cases valued
  | string => cases valued
  | boolean => cases valued

/-- A reference in a theme comes from a color variable that the theme collection lists and that is an alias
in one of its modes. -/
private theorem exists_alias_of_reference {theme : Theme} {e : String × Token} {token : String}
    (themed : theme ∈ (ThemeModule.ofDocument s d).themes) (he : e ∈ theme.tokens.entries)
    (refers : e.2.value = .reference token) :
    ∃ c mode v target, d.collectionNamed? s.themeCollection = some c ∧ mode ∈ c.modes ∧
      theme = ThemeModule.modeTheme d c mode ∧ v ∈ d.colorVariables c ∧
      d.IsAlias mode.modeId v target ∧ e.1 = Text.camelIdentifier v.name ∧
      e.2.comment = v.description ∧ token = Text.camelIdentifier target.name := by
  -- Paint styles give their colors outright.
  have noStyle : e ∉ d.styleContributions := by
    intro listed
    obtain ⟨style, -, rfl⟩ := List.mem_map.1 listed
    cases refers
  unfold ThemeModule.ofDocument at themed
  split at themed
  · next c hc =>
    obtain ⟨mode, listed, rfl⟩ := List.mem_map.1 themed
    rcases List.mem_append.1 (OrderedMap.mem_entries_ofList he) with he | he
    · obtain ⟨v, hv, token⟩ := List.mem_filterMap.1 he
      obtain ⟨target, rest⟩ := isAlias_of_themeToken? token refers
      exact ⟨c, mode, v, target, hc, listed, rfl, hv, rest⟩
    · exact absurd he noStyle
  · obtain rfl := List.mem_singleton.1 themed
    exact absurd (OrderedMap.mem_entries_ofList he) noStyle

/-- No identifier of a color holds a colon. -/
private theorem colonless_colors : ∀ e ∈ (ThemeModule.ofDocument s d).colors.entries, ':' ∉ e.1.toList := by
  intro e he
  obtain ⟨c, -, v, -, -, named⟩ := mem_keys_colors.1 (List.mem_map_of_mem he)
  rw [named]
  exact (Text.isPlain_camelIdentifier v.name).not_mem (by decide)

/-- Every reference in a theme is named after the existing variable of which a listed color variable of the
theme collection is an alias in the mode. It names a token of the `colors` object if and only if the
collection of colors gives a color under this name, which being aliased does not ensure. In the text of the module, the
object of the theme has a line with the reference, and the object of colors has a line for the token if and only if the
collection gives that color. -/
theorem reference_declared_iff {theme : Theme} {e : String × Token} {token : String}
    (themed : theme ∈ (ThemeModule.ofDocument s d).themes) (he : e ∈ theme.tokens.entries)
    (refers : e.2.value = .reference token) :
    (∃ c mode v target, d.collectionNamed? s.themeCollection = some c ∧ mode ∈ c.modes ∧
      theme = ThemeModule.modeTheme d c mode ∧ v ∈ d.colorVariables c ∧
      d.IsAlias mode.modeId v target ∧ e.1 = Text.camelIdentifier v.name ∧
      e.2.comment = v.description ∧ token = Text.camelIdentifier target.name) ∧
    (token ∈ (ThemeModule.ofDocument s d).colors.keys ↔ d.GivesColor s token) ∧
    ∀ settings : Settings,
      let layouts := (ThemeModule.ofDocument s d).layouts settings
      Layout.Spell settings.writer layouts ((ThemeModule.ofDocument s d).text settings) ∧
        (∃ lines, .block ("export const " ++ theme.name ++ "Theme = \x7b") "\x7d;"
          [.block "colors: \x7b" "\x7d," lines] ∈ layouts ∧ .line (e.1 ++ ": colors." ++ token ++ ",") ∈ lines) ∧
        (Layout.DeclaresColor token layouts ↔ d.GivesColor s token) := by
  have aliased := exists_alias_of_reference themed he refers
  refine ⟨aliased, mem_keys_colors, fun settings => ⟨Layout.spell_render _ _, ?_, ?_⟩⟩
  · obtain ⟨lines, tokens, object⟩ := ThemeModule.theme_lines (s := settings) themed (List.ne_nil_of_mem he)
    have own := tokens.tokenLine_mem he
    rw [refers] at own
    exact ⟨lines, object, own⟩
  · obtain ⟨-, -, -, target, -, -, -, -, -, -, -, named⟩ := aliased
    have colonless : ':' ∉ token.toList := by
      rw [named]
      exact (Text.isPlain_camelIdentifier target.name).not_mem (by decide)
    exact (ThemeModule.declaresColor_layouts_iff colonless colonless_colors).trans mem_keys_colors

/-- A palette with one color, and a theme of it: the primary color is an alias of the color, and the accent
is an alias of the primary color. -/
def chainedPalette : Document where
  name := ""
  collections :=
    [{ id := "k", name := "Colors", modes := [⟨"m", "Value"⟩], defaultModeId := "m", variableIds := ["b"] },
      { id := "t", name := "Theme", modes := [⟨"l", "Light"⟩], defaultModeId := "l"
        variableIds := ["p", "a"] }]
  localVariables :=
    [{ id := "b", name := "Ink/900", resolvedType := .color
       valuesByMode := .ofList [("m", .color .black)] },
      { id := "p", name := "Primary", resolvedType := .color, description := "The main color"
        valuesByMode := .ofList [("l", .alias "b")] },
      { id := "a", name := "Accent", resolvedType := .color
        valuesByMode := .ofList [("l", .alias "p")] }]

/-- The primary color of the palette refers to a color that is declared, also in the text. -/
theorem reference_declared_primary :
    ∃ theme ∈ (ThemeModule.ofDocument {} chainedPalette).themes,
      ("primary", ⟨.reference "ink900", "The main color"⟩) ∈ theme.tokens.entries ∧
      chainedPalette.GivesColor {} "ink900" ∧
      "ink900" ∈ (ThemeModule.ofDocument {} chainedPalette).colors.keys ∧
      Layout.DeclaresColor "ink900" ((ThemeModule.ofDocument {} chainedPalette).layouts {}) := by
  have written : ∃ theme ∈ (ThemeModule.ofDocument {} chainedPalette).themes,
      ("primary", ⟨.reference "ink900", "The main color"⟩) ∈ theme.tokens.entries := by decide +kernel
  obtain ⟨theme, themed, listed⟩ := written
  obtain ⟨-, declared, written⟩ := reference_declared_iff themed listed rfl
  have has : "ink900" ∈ (ThemeModule.ofDocument {} chainedPalette).colors.keys := by decide +kernel
  have given := declared.1 has
  exact ⟨theme, themed, listed, given, has, (written {}).2.2.2 given⟩

/-- A theme can refer to a color that is not declared: the accent of the palette refers to the primary
color, which is a token of the theme and not of the `colors` object. -/
theorem reference_not_declared :
    ¬ ∀ (d : Document) (s : ThemeSettings), ∀ theme ∈ (ThemeModule.ofDocument s d).themes,
      ∀ e ∈ theme.tokens.entries, ∀ token, e.2.value = .reference token →
        token ∈ (ThemeModule.ofDocument s d).colors.keys := by
  intro declared
  have written : ∃ theme ∈ (ThemeModule.ofDocument {} chainedPalette).themes,
      ("accent", ⟨.reference "primary", ""⟩) ∈ theme.tokens.entries := by decide +kernel
  obtain ⟨theme, themed, listed⟩ := written
  have absent : "primary" ∉ (ThemeModule.ofDocument {} chainedPalette).colors.keys := by decide +kernel
  exact absent (declared _ _ theme themed _ listed "primary" rfl)

end Handoff.Document
