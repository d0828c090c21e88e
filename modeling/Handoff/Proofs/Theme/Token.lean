import Handoff.Proofs.Module.Rendering
import Handoff.Proofs.Component.Variants
import Handoff.Proofs.Theme.Blocks

/-!
# Theme colors and tokens

A color in a style sheet that refers to the theme is named after the variable to which a paint is bound,
whatever collection the variable belongs to. A theme has tokens for the color variables of its own
collection that have a color in its mode, and for the paint styles of the document. So the reference names
a token of the theme that is exported exactly if one of these has the identifier of the variable.
-/

namespace Handoff

/-! ## Colors in style sheets -/

/-- Whether a paint is a solid one that can be seen. -/
def Paint.isShown : Paint → Bool
  | .solid _ visible _ => visible
  | _ => false

/-- Whether the first solid paint that can be seen is bound to a variable of the document. -/
def Document.Binds (d : Document) (paints : List Paint) (v : Variable) : Prop :=
  ∃ color id, paints.find? (·.isShown) = some (.solid color true (some id)) ∧
    d.variableById? id = some v

namespace Style

variable {d : Document} {n : Node}

private theorem firstSolid?_eq_theme {paints : List Paint} {expression : String}
    (h : firstSolid? d paints = some (.theme expression)) :
    ∃ v, d.Binds paints v ∧ expression = themeColor v.name := by
  induction paints with
  | nil => cases h
  | cons paint rest ih =>
    by_cases shown : paint.isShown = true
    · cases paint with
      | solid color visible variableId =>
        obtain rfl : visible = true := shown
        have first : paintColor d color variableId = .theme expression := Option.some.inj h
        unfold paintColor at first
        split at first
        · next v hv =>
          cases first
          obtain ⟨id, rfl, found⟩ := Option.bind_eq_some_iff.1 hv
          exact ⟨v, ⟨color, id, rfl, found⟩, rfl⟩
        · cases first
      | image => cases shown
      | other => cases shown
    · have passed : firstSolid? d (paint :: rest) = firstSolid? d rest := by
        cases paint with
        | solid color visible variableId =>
          obtain rfl : visible = false := by simpa [Paint.isShown] using shown
          rfl
        | image => rfl
        | other => rfl
      obtain ⟨v, ⟨color, id, found, named⟩, he⟩ := ih (passed ▸ h)
      exact ⟨v, ⟨color, id, by rw [List.find?_cons_of_neg shown, found], named⟩, he⟩

/-- A node's style refers to the theme for the variables to which its fills and strokes are bound. -/
theorem exists_of_get?_resolve {property expression : String}
    (h : (resolve d n).get? property = some (.theme expression)) :
    ∃ v, (d.Binds n.fills v ∨ d.Binds n.strokes v) ∧ expression = themeColor v.name := by
  have listed := OrderedMap.mem_entries_ofList (OrderedMap.mem_of_get? h)
  rcases value_of_mem_entries listed with literal | fill | stroke
  · cases literal
  · obtain ⟨v, binds, he⟩ := firstSolid?_eq_theme fill
    exact ⟨v, .inl binds, he⟩
  · obtain ⟨v, binds, he⟩ := firstSolid?_eq_theme stroke
    exact ⟨v, .inr binds, he⟩

end Style

/-- The values in the base styles and in the patches of a model. -/
def Model.styleValues (m : Model) : List StyleValue :=
  m.styles.values.flatMap (·.values)
    ++ m.variants.values.flatMap fun modifiers => modifiers.values.flatMap (·.values)

namespace Document

variable {d : Document} {descriptor : Descriptor} {log : List LogRecord} {m : Model}

/-- A value in a model takes a property away, or a node of the document has it. -/
theorem exists_node_of_styleValues (extracted : d.extract descriptor = (log, .ok m)) {value : StyleValue}
    (h : value ∈ m.styleValues) :
    value = .unset ∨ ∃ n ∈ d.nodes, ∃ property, (Style.resolve d n).get? property = some value := by
  obtain ⟨root, hroot, base, variants⟩ := styles_extract extracted
  have entry {β : Type} {value : β} {map : OrderedMap β} (h : value ∈ map.values) :
      ∃ key, map.get? key = some value := by
    obtain ⟨e, he, rfl⟩ := List.mem_map.1 h
    exact ⟨e.1, OrderedMap.get?_of_mem he⟩
  rcases List.mem_append.1 h with h | h
  · obtain ⟨style, hstyle, hvalue⟩ := List.mem_flatMap.1 h
    obtain ⟨slug, found⟩ := entry hstyle
    obtain ⟨property, set⟩ := entry hvalue
    rw [base] at found
    obtain ⟨n, listed, rfl⟩ := exists_node_of_subtreeStyles found
    refine .inr ⟨n, ?_, property, set⟩
    rcases listed with rfl | listed
    · exact mem_nodes_of_node? hroot
    · exact listed
  · obtain ⟨modifiers, hmodifiers, h⟩ := List.mem_flatMap.1 h
    obtain ⟨patch, hpatch, hvalue⟩ := List.mem_flatMap.1 h
    obtain ⟨slug, found⟩ := entry hmodifiers
    obtain ⟨key, recorded⟩ := entry hpatch
    obtain ⟨property, set⟩ := entry hvalue
    have recorded : recorded? m.variants slug key = some patch := by
      rw [recorded?, found, Option.bind_some, recorded]
    rw [variants] at recorded
    split at recorded
    · obtain ⟨member, hmember, style, own, -, hown, rfl⟩ := exists_member_of_recorded recorded
      have memberListed : member ∈ d.nodes := mem_nodes_of_mem_children (List.mem_of_mem_filter hmember)
      -- A patch sets what the member's style has, and otherwise takes away.
      rcases StyleMap.mem_entries_patch.1 (OrderedMap.mem_of_get? set) with ⟨has, -⟩ | ⟨-, -, rfl⟩
      · obtain ⟨n, listed, rfl⟩ := exists_node_of_subtreeStyles hown
        refine .inr ⟨n, ?_, property, has⟩
        rcases listed with rfl | listed
        · exact memberListed
        · exact listed
      · exact .inl rfl
    · cases recorded

/-! ## Tokens of themes -/

/-- Whether a variable has a color in a mode, given outright or as an alias of an existing variable. -/
def HasColor (d : Document) (modeId : String) (v : Variable) : Prop :=
  (∃ color, v.valuesByMode.get? modeId = some (.color color)) ∨
    ∃ id target, v.valuesByMode.get? modeId = some (.alias id) ∧ d.variableById? id = some target

/-- Whether a token is named after a color variable that a collection lists and that has a color in a
mode. -/
def NamesListedColor (d : Document) (c : VariableCollection) (modeId token : String) : Prop :=
  ∃ id ∈ c.variableIds, ∃ v, d.variableById? id = some v ∧ v.resolvedType = .color ∧
    d.HasColor modeId v ∧ token = Text.camelIdentifier v.name

/-- Whether a token is named after a paint style. -/
def NamesPaintStyle (d : Document) (token : String) : Prop :=
  ∃ style ∈ d.paintStyles, token = Text.camelIdentifier style.name

private theorem mem_map_styleContributions {token : String} :
    token ∈ d.styleContributions.map Prod.fst ↔ d.NamesPaintStyle token := by
  simp [styleContributions, PaintStyle.token, NamesPaintStyle, eq_comm]

/-- A variable has a color in a mode exactly if its value there can be that of a token. -/
theorem isSome_tokenValue?_iff {modeId : String} {v : Variable} :
    ((v.valuesByMode.get? modeId).bind d.tokenValue?).isSome = true ↔ d.HasColor modeId v := by
  cases hv : v.valuesByMode.get? modeId with
  | none => simp [HasColor, hv]
  | some value =>
    cases value with
    | «alias» id => cases hid : d.variableById? id <;> simp [HasColor, hv, hid, tokenValue?]
    | _ => simp [HasColor, hv, tokenValue?]

private theorem fst_themeToken? {modeId token : String} {v : Variable} :
    (∃ e, d.themeToken? modeId v = some e ∧ e.1 = token) ↔
      d.HasColor modeId v ∧ token = Text.camelIdentifier v.name := by
  rw [← isSome_tokenValue?_iff, Option.isSome_iff_exists]
  constructor
  · rintro ⟨e, he, rfl⟩
    obtain ⟨value, hvalue, rfl⟩ := Option.map_eq_some_iff.1 he
    exact ⟨⟨value, hvalue⟩, rfl⟩
  · rintro ⟨⟨value, hvalue⟩, rfl⟩
    exact ⟨_, Option.map_eq_some_iff.2 ⟨value, hvalue, rfl⟩, rfl⟩

/-- The tokens of a mode's theme. -/
theorem mem_keys_modeTheme {c : VariableCollection} {mode : VariableMode} {token : String} :
    token ∈ (ThemeModule.modeTheme d c mode).tokens.keys ↔
      d.NamesListedColor c mode.modeId token ∨ d.NamesPaintStyle token := by
  have colors : token ∈ (d.modeContributions c mode.modeId).map Prod.fst ↔
      d.NamesListedColor c mode.modeId token := by
    simp only [modeContributions, colorVariables, List.mem_map, List.mem_filterMap, List.mem_filter,
      NamesListedColor]
    constructor
    · rintro ⟨e, ⟨v, ⟨⟨id, listed, found⟩, typed⟩, he⟩, same⟩
      obtain ⟨colored, named⟩ := fst_themeToken?.1 ⟨e, he, same⟩
      exact ⟨id, listed, v, found, by simpa using typed, colored, named⟩
    · rintro ⟨id, listed, v, found, typed, colored, named⟩
      obtain ⟨e, he, same⟩ := fst_themeToken?.2 ⟨colored, named⟩
      exact ⟨e, ⟨v, ⟨⟨id, listed, found⟩, by simpa using typed⟩, he⟩, same⟩
  rw [ThemeModule.modeTheme, OrderedMap.mem_keys_ofList, List.map_append, List.mem_append, colors,
    mem_map_styleContributions]

end Document

namespace ThemeModule

/-- Whether a theme of the exported name has a token. -/
def HasDefaultToken (t : ThemeModule) (token : String) : Prop :=
  ∃ theme ∈ t.themes, t.exported = some theme.name ∧ token ∈ theme.tokens.keys

instance (t : ThemeModule) (token : String) : Decidable (t.HasDefaultToken token) :=
  inferInstanceAs (Decidable (∃ theme ∈ t.themes, _))

end ThemeModule

namespace Document

variable {d : Document} {descriptor : Descriptor} {log : List LogRecord} {m : Model}

/-- Whether a document gives the default theme a token: by a paint style, if any theme is exported, or by
a listed variable that has a color in a mode that is called like the exported one. This is the default mode, or else the
first; without modes nothing is exported. -/
def GivesDefaultToken (d : Document) (s : ThemeSettings) (token : String) : Prop :=
  match d.collectionNamed? s.themeCollection with
  | none => d.NamesPaintStyle token
  | some c => ∃ exported, (c.modes.find? (·.modeId == c.defaultModeId)).or c.modes.head? = some exported ∧
      ∃ mode ∈ c.modes, Text.camelIdentifier mode.name = Text.camelIdentifier exported.name ∧
        (d.NamesListedColor c mode.modeId token ∨ d.NamesPaintStyle token)

/-- No identifier of a theme's token holds a colon. -/
theorem colonless_themes {s : ThemeSettings} :
    ∀ theme ∈ (ThemeModule.ofDocument s d).themes, ∀ e ∈ theme.tokens.entries, ':' ∉ e.1.toList := by
  have camel (name : String) : ':' ∉ (Text.camelIdentifier name).toList :=
    (Text.isPlain_camelIdentifier name).not_mem (by decide)
  have styles {e : String × Token} (he : e ∈ d.styleContributions) : ':' ∉ e.1.toList := by
    obtain ⟨style, -, rfl⟩ := List.mem_map.1 he
    exact camel style.name
  intro theme themed e he
  unfold ThemeModule.ofDocument at themed
  split at themed
  · obtain ⟨mode, -, rfl⟩ := List.mem_map.1 themed
    rcases List.mem_append.1 (OrderedMap.mem_entries_ofList he) with he | he
    · obtain ⟨v, -, token⟩ := List.mem_filterMap.1 he
      obtain ⟨value, -, rfl⟩ := Option.map_eq_some_iff.1 token
      exact camel v.name
    · exact styles he
  · obtain rfl := List.mem_singleton.1 themed
    exact styles (OrderedMap.mem_entries_ofList he)

/-- The theme that is exported has the tokens of the themes of that name. -/
theorem exportsToken_iff_hasDefaultToken (settings : Settings) (name : String) :
    Layout.ExportsToken (Text.camelIdentifier name) ((ThemeModule.ofDocument settings.theme d).layouts settings) ↔
      (ThemeModule.ofDocument settings.theme d).HasDefaultToken (Text.camelIdentifier name) :=
  ThemeModule.exportsToken_layouts_iff ((Text.isPlain_camelIdentifier name).not_mem (by decide)) colonless_themes

/-- The tokens of the default export are those that the document gives it. -/
theorem hasDefaultToken_iff {s : ThemeSettings} {token : String} :
    (ThemeModule.ofDocument s d).HasDefaultToken token ↔ d.GivesDefaultToken s token := by
  unfold ThemeModule.HasDefaultToken ThemeModule.ofDocument GivesDefaultToken
  cases hc : d.collectionNamed? s.themeCollection with
  | none => simp [OrderedMap.mem_keys_ofList, mem_map_styleContributions]
  | some c =>
    simp only [List.mem_map, Option.map_eq_some_iff]
    constructor
    · rintro ⟨_, ⟨mode, listed, rfl⟩, ⟨exported, exports, named⟩, has⟩
      exact ⟨exported, exports, mode, listed, named.symm, mem_keys_modeTheme.1 has⟩
    · rintro ⟨exported, exports, mode, listed, named, gives⟩
      exact ⟨_, ⟨mode, listed, rfl⟩, ⟨exported, exports, named.symm⟩, mem_keys_modeTheme.2 gives⟩

/-- Every theme color in the base styles and the patches of a model is named after a variable of the
document to which a node's first solid fill or stroke that can be seen is bound. It names a token of the theme that
is exported by default in the text of the theme module exactly if the document gives that theme the token, which the
variable alone does not ensure: it may belong to another collection, or have no color in the exported mode. -/
theorem themeColors_of_extract (extracted : d.extract descriptor = (log, .ok m)) {expression : String}
    (used : .theme expression ∈ m.styleValues) (settings : Settings) :
    let theme := ThemeModule.ofDocument settings.theme d
    Layout.Spell settings.writer (theme.layouts settings) (theme.text settings) ∧
      ∃ v ∈ d.localVariables, (∃ n ∈ d.nodes, d.Binds n.fills v ∨ d.Binds n.strokes v) ∧
        expression = "theme.colors." ++ Text.camelIdentifier v.name ∧
        (Layout.ExportsToken (Text.camelIdentifier v.name) (theme.layouts settings) ↔
          d.GivesDefaultToken settings.theme (Text.camelIdentifier v.name)) := by
  refine ⟨Layout.spell_render settings.writer _, ?_⟩
  rcases exists_node_of_styleValues extracted used with nothing | ⟨n, listed, property, has⟩
  · cases nothing
  · obtain ⟨v, binds, named⟩ := Style.exists_of_get?_resolve has
    refine ⟨v, ?_, ⟨n, listed, binds⟩, named,
      (exportsToken_iff_hasDefaultToken settings v.name).trans hasDefaultToken_iff⟩
    rcases binds with ⟨_, _, -, found⟩ | ⟨_, _, -, found⟩
    · exact List.mem_of_find?_eq_some found
    · exact List.mem_of_find?_eq_some found

/-- A card filled with the color of a variable that the collection of colors lists; the theme lists the
given variables. -/
def paintedCard (themed : List NodeId) : Document :=
  { filed [{ id := "c", name := "Card", kind := .component,
             fills := [.solid .black true (some "v")] }] with
    collections :=
      [{ id := "k", name := "Colors", modes := [⟨"m", "Light"⟩], defaultModeId := "m",
         variableIds := ["v"] },
        { id := "t", name := "Theme", modes := [⟨"m", "Light"⟩], defaultModeId := "m",
          variableIds := themed }]
    localVariables :=
      [{ id := "v", name := "Primary/500", resolvedType := .color
         valuesByMode := .ofList [("m", .color .black)] }] }

/-- The description of the painted card. -/
def paintedDescriptor : Descriptor where
  id := "c"
  name := "Card"
  page := ""
  pageSection := none
  path := "components/common/base/card"
  isVariant := false
  isInstance := false
  rootNode := "c"
  properties := .empty
  description := ""
  documentationLinks := []

/-- The painted card compiles, and its style sheet refers to the theme once. -/
private theorem extract_paintedCard (themed : List NodeId) (hthemed : themed = [] ∨ themed = ["v"]) :
    (paintedCard themed).describe "c" none = .ok paintedDescriptor ∧
      ∃ log m written, (paintedCard themed).extract paintedDescriptor = (log, .ok m) ∧
        ComponentModule.ofModel {} paintedDescriptor m = .ok written ∧
        m.styleValues = [.theme "theme.colors.primary500"] := by
  have described : (paintedCard themed).describe "c" none = .ok paintedDescriptor := by
    rcases hthemed with rfl | rfl <;> decide +kernel
  have extracts : (((paintedCard themed).extract paintedDescriptor).2.toOption.map fun m =>
      ((ComponentModule.ofModel {} paintedDescriptor m).toOption.isSome, m.styleValues)) =
        some (true, [.theme "theme.colors.primary500"]) := by
    rcases hthemed with rfl | rfl <;> decide +kernel
  refine ⟨described, ?_⟩
  cases hx : (paintedCard themed).extract paintedDescriptor with
  | mk log result =>
    rw [hx] at extracts
    cases result with
    | error e => cases extracts
    | ok m =>
      obtain ⟨writes, values⟩ := Prod.mk.inj (Option.some.inj extracts)
      cases hw : ComponentModule.ofModel {} paintedDescriptor m with
      | error e =>
        rw [hw] at writes
        cases writes
      | ok written => exact ⟨log, m, written, rfl, hw, values⟩

/-- The color of a card that the theme lists is a token of the theme that is exported. -/
theorem themeColors_paintedCard :
    ∃ log m, (paintedCard ["v"]).extract paintedDescriptor = (log, .ok m) ∧
      .theme "theme.colors.primary500" ∈ m.styleValues ∧
      ∃ v ∈ (paintedCard ["v"]).localVariables,
        (∃ n ∈ (paintedCard ["v"]).nodes,
          (paintedCard ["v"]).Binds n.fills v ∨ (paintedCard ["v"]).Binds n.strokes v) ∧
        "theme.colors.primary500" = "theme.colors." ++ Text.camelIdentifier v.name ∧
        (paintedCard ["v"]).GivesDefaultToken {} (Text.camelIdentifier v.name) ∧
        Layout.ExportsToken (Text.camelIdentifier v.name)
          ((ThemeModule.ofDocument {} (paintedCard ["v"])).layouts {}) := by
  obtain ⟨-, log, m, -, extracted, -, values⟩ := extract_paintedCard ["v"] (.inr rfl)
  have used : .theme "theme.colors.primary500" ∈ m.styleValues := by simp [values]
  obtain ⟨-, v, listed, binds, named, tokens⟩ := themeColors_of_extract extracted used {}
  have has : (ThemeModule.ofDocument {} (paintedCard ["v"])).HasDefaultToken
      (Text.camelIdentifier v.name) := by
    rw [List.mem_singleton.1 listed]
    decide +kernel
  have exported := (exportsToken_iff_hasDefaultToken {} v.name).2 has
  exact ⟨log, m, extracted, used, v, listed, binds, named, tokens.1 exported, exported⟩

/-- A style sheet can refer to a token that the exported theme lacks: the color of a card is a variable of
another collection than the theme's. -/
theorem themeColor_not_token :
    ¬ ∀ (d : Document) (settings : Settings) (id : NodeId) (selected : Option NodeId)
      (descriptor : Descriptor) (log : List LogRecord) (m : Model) (written : ComponentModule),
      d.describe id selected = .ok descriptor → d.extract descriptor = (log, .ok m) →
      ComponentModule.ofModel settings descriptor m = .ok written →
      ∀ token, .theme ("theme.colors." ++ token) ∈ m.styleValues →
        Layout.ExportsToken token ((ThemeModule.ofDocument settings.theme d).layouts settings) := by
  intro agree
  obtain ⟨described, log, m, written, extracted, emitted, values⟩ := extract_paintedCard [] (.inl rfl)
  have named : Text.camelIdentifier "Primary/500" = "primary500" := by decide +kernel
  have has := agree _ _ _ _ _ _ _ _ described extracted emitted "primary500" (by simp [values])
  rw [← named, exportsToken_iff_hasDefaultToken, named] at has
  exact absurd has (by decide +kernel)

end Document
end Handoff
