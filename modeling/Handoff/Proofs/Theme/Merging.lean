import Handoff.Proofs.Ordered.Attempts
import Handoff.Proofs.Ordered.Map
import Handoff.Proofs.Ordered.Set
import Handoff.Proofs.Theme.Token
import Handoff.Session.Basic

/-!
# Merging of theme tokens

A theme gets its colors from two kinds of sources: the color variables of the theme collection that have a
color in the mode, and the paint styles of the document. Sources of one identifier share a token, which
stands where the first of them stands and has the value and the comment of the last of them. What is told
about the theme elsewhere agrees with the tokens: whether there are any, whether icons can be imported, and
which theme is the default export.
-/

namespace Handoff

/-! ## Sources of tokens -/

/-- The color of a solid paint. -/
def Paint.solid? : Paint → Option Color
  | .solid color _ _ => some color
  | _ => none

/-- A list of paints has the color of its first solid one. -/
theorem solidColor_eq (paints : List Paint) : solidColor paints = (paints.findSome? (·.solid?)).getD .black := by
  induction paints with
  | nil => rfl
  | cons paint rest ih =>
    cases paint with
    | solid => rfl
    | image => exact ih
    | other => exact ih

/-- What gives a theme a color. -/
inductive TokenSource where
  | ofVariable (v : Variable)
  | ofStyle (s : PaintStyle)

namespace TokenSource

/-- The identifier of the token that a source gives. -/
def identifier : TokenSource → String
  | ofVariable v => Text.camelIdentifier v.name
  | ofStyle s => Text.camelIdentifier s.name

/-- The token that a source gives to the theme of a mode: a variable the color that it has in the mode, or a reference
to the existing variable of which it is an alias there, and a paint style its first solid color, or black, each with the
description. -/
def token? (d : Document) (modeId : String) : TokenSource → Option Token
  | ofVariable v =>
    match v.valuesByMode.get? modeId with
    | some (.color color) => some ⟨.color color, v.description⟩
    | some (.alias id) =>
      (d.variableById? id).map fun target => ⟨.reference (Text.camelIdentifier target.name), v.description⟩
    | _ => none
  | ofStyle s => some ⟨.color ((s.paints.findSome? (·.solid?)).getD .black), s.description⟩

/-- The token of a source under its identifier. -/
def contribution? (d : Document) (modeId : String) (source : TokenSource) : Option (String × Token) :=
  (source.token? d modeId).map (source.identifier, ·)

end TokenSource

namespace Document

variable {d : Document} {modeId : String} {sources : List TokenSource}

/-- The color variables that a collection lists, in order. -/
def listedColors (d : Document) (c : VariableCollection) : List Variable :=
  c.variableIds.filterMap fun id => (d.variableById? id).filter (·.resolvedType == .color)

/-- The color variables of a collection are those that it lists. -/
theorem colorVariables_eq (d : Document) (c : VariableCollection) : d.colorVariables c = d.listedColors c :=
  List.filter_filterMap

/-- The sources of the theme of a mode: the color variables of the theme collection that have a token there,
and after them all paint styles. -/
def themeSources (d : Document) (c : Option VariableCollection) (modeId : String) : List TokenSource :=
  (((c.map d.listedColors).getD []).map TokenSource.ofVariable
      ++ d.paintStyles.map TokenSource.ofStyle).filter
    fun source => (source.token? d modeId).isSome

/-- A variable gives a token if its value in the mode can be that of one. -/
private theorem token?_ofVariable (v : Variable) : (TokenSource.ofVariable v).token? d modeId =
    ((v.valuesByMode.get? modeId).bind d.tokenValue?).map (⟨·, v.description⟩) := by
  simp only [TokenSource.token?]
  cases v.valuesByMode.get? modeId with
  | none => rfl
  | some value =>
    cases value with
    | «alias» id => simp [tokenValue?, Function.comp_def]
    | _ => rfl

/-- The variables among the sources of a mode's theme are the listed color variables that have a color there, given
outright or as an alias of an existing variable. -/
theorem ofVariable_mem_themeSources {c : VariableCollection} {v : Variable} :
    .ofVariable v ∈ d.themeSources (some c) modeId ↔
      (∃ id ∈ c.variableIds, d.variableById? id = some v ∧ v.resolvedType = .color) ∧ d.HasColor modeId v := by
  have colored : ((TokenSource.ofVariable v).token? d modeId).isSome = true ↔ d.HasColor modeId v := by
    rw [token?_ofVariable, Option.isSome_map, isSome_tokenValue?_iff]
  simp [themeSources, colored, listedColors, Option.filter_eq_some_iff]

/-- Whether tokens are those of some sources, merged: each identifier of a source is listed once, at the
place of its first source, and has the token of its last source. -/
structure Merges (d : Document) (modeId : String) (sources : List TokenSource) (tokens : List (String × Token)) :
    Prop where
  once : (tokens.map Prod.fst).Nodup
  named : ∀ token, token ∈ tokens.map Prod.fst ↔ ∃ source ∈ sources, source.identifier = token
  first : (tokens.map Prod.fst).Pairwise fun a b =>
    sources.findIdx (·.identifier == a) < sources.findIdx (·.identifier == b)
  last : ∀ e ∈ tokens, ∃ source,
    sources.reverse.find? (·.identifier == e.1) = some source ∧ source.token? d modeId = some e.2

section

variable (has : ∀ source ∈ sources, (source.token? d modeId).isSome = true)
include has

private theorem map_fst_entries :
    (sources.filterMap (·.contribution? d modeId)).map Prod.fst = sources.map (·.identifier) := by
  induction sources with
  | nil => rfl
  | cons source rest ih =>
    obtain ⟨token, given⟩ := Option.isSome_iff_exists.1 (has source List.mem_cons_self)
    have entry : source.contribution? d modeId = some (source.identifier, token) := by
      rw [TokenSource.contribution?, given, Option.map_some]
    rw [List.filterMap_cons_some entry, List.map_cons, List.map_cons,
      ih fun other listed => has other (List.mem_cons_of_mem _ listed)]

private theorem lookup_entries (token : String) :
    (sources.filterMap (·.contribution? d modeId)).lookup token =
      (sources.find? (·.identifier == token)).bind (·.token? d modeId) := by
  induction sources with
  | nil => rfl
  | cons source rest ih =>
    obtain ⟨given, hgiven⟩ := Option.isSome_iff_exists.1 (has source List.mem_cons_self)
    have entry : source.contribution? d modeId = some (source.identifier, given) := by
      rw [TokenSource.contribution?, hgiven, Option.map_some]
    rw [List.filterMap_cons_some entry, List.lookup_cons, List.find?_cons, BEq.comm]
    cases source.identifier == token with
    | true => rw [Option.bind_some, hgiven]
    | false => exact ih fun other listed => has other (List.mem_cons_of_mem _ listed)

/-- Writing the tokens of sources one after the other merges them. -/
theorem merges_ofList :
    d.Merges modeId sources (OrderedMap.ofList (sources.filterMap (·.contribution? d modeId))).entries := by
  have keys : (OrderedMap.ofList (sources.filterMap (·.contribution? d modeId))).keys =
      (OrderedSet.ofList (sources.filterMap fun source => some source.identifier)).elems := by
    rw [OrderedMap.keys_ofList, map_fst_entries has, List.filterMap_eq_map']
  have named (token : String) :
      token ∈ (OrderedMap.ofList (sources.filterMap (·.contribution? d modeId))).keys ↔
        ∃ source ∈ sources, source.identifier = token := by
    rw [keys, OrderedSet.mem_ofList]
    simp
  refine ⟨OrderedMap.nodup_keys _, named, ?_, fun e he => ?_⟩
  · show (OrderedMap.ofList _).keys.Pairwise _
    rw [keys]
    refine (OrderedSet.pairwise_findIdx_ofList _ sources).imp fun {a b} before => ?_
    simpa [beq_eq_decide] using before
  · -- The token in force is found first from the end, and so is the last source.
    obtain ⟨source, listed, same⟩ := (named e.1).1 (List.mem_map_of_mem he)
    have reversed : ∀ source ∈ sources.reverse, (source.token? d modeId).isSome = true :=
      fun other ho => has other (List.mem_reverse.1 ho)
    cases found : sources.reverse.find? (·.identifier == e.1) with
    | none =>
      have differs := List.find?_eq_none.1 found source (List.mem_reverse.2 listed)
      simp [same] at differs
    | some last =>
      refine ⟨last, rfl, ?_⟩
      have inForce := OrderedMap.get?_of_mem he
      rw [OrderedMap.ofList, OrderedMap.get?_insertAll, ← List.filterMap_reverse, lookup_entries reversed,
        found] at inForce
      simpa using inForce

end

private theorem filterMap_themeSources {c : Option VariableCollection} :
    (d.themeSources c modeId).filterMap (·.contribution? d modeId) =
      ((c.map d.listedColors).getD []).filterMap (d.themeToken? modeId) ++ d.styleContributions := by
  have given (source : TokenSource) :
      (if (source.token? d modeId).isSome = true then source.contribution? d modeId else none) =
        source.contribution? d modeId := by
    unfold TokenSource.contribution?
    cases source.token? d modeId <;> rfl
  have ofVariable : TokenSource.contribution? d modeId ∘ TokenSource.ofVariable = d.themeToken? modeId := by
    funext v
    rw [Function.comp_apply, TokenSource.contribution?, token?_ofVariable, Option.map_map]
    rfl
  have ofStyle : TokenSource.contribution? d modeId ∘ TokenSource.ofStyle = some ∘ PaintStyle.token := by
    funext style
    rw [Function.comp_apply, Function.comp_apply, PaintStyle.token, solidColor_eq]
    rfl
  rw [themeSources, List.filterMap_filter]
  simp only [given]
  rw [List.filterMap_append, List.filterMap_map, List.filterMap_map, ofVariable, ofStyle, styleContributions,
    List.filterMap_eq_map]

/-- The tokens of a theme are those of its sources, merged. -/
theorem merges_themeSources (c : Option VariableCollection) :
    d.Merges modeId (d.themeSources c modeId) (OrderedMap.ofList
      (((c.map d.listedColors).getD []).filterMap (d.themeToken? modeId) ++ d.styleContributions)).entries := by
  rw [← filterMap_themeSources]
  exact merges_ofList fun source listed => (List.mem_filter.1 listed).2

/-- The themes of a document with a theme collection are those of its modes. -/
theorem merges_themes {s : ThemeSettings} {c : VariableCollection}
    (hc : d.collectionNamed? s.themeCollection = some c) :
    List.Forall₂
      (fun mode theme => theme.name = Text.camelIdentifier mode.name ∧
        d.Merges mode.modeId (d.themeSources (some c) mode.modeId) theme.tokens.entries)
      c.modes (ThemeModule.ofDocument s d).themes := by
  unfold ThemeModule.ofDocument
  rw [hc, List.forall₂_map_right_iff]
  refine List.forall₂_same.2 fun mode _ => ⟨rfl, ?_⟩
  rw [ThemeModule.modeTheme, modeContributions, colorVariables_eq]
  exact merges_themeSources (some c)

/-- A document without a theme collection has one theme, of its paint styles. -/
theorem merges_fallback {s : ThemeSettings} (hc : d.collectionNamed? s.themeCollection = none) (modeId : String) :
    ∃ theme, (ThemeModule.ofDocument s d).themes = [theme] ∧ theme.name = ThemeModule.fallbackName ∧
      d.Merges modeId (d.themeSources none modeId) theme.tokens.entries := by
  unfold ThemeModule.ofDocument
  rw [hc]
  exact ⟨_, rfl, rfl, merges_themeSources none⟩

/-! ## Importing icons -/

private theorem subtreeFrom_error {fuel : Nat} {id : NodeId} {e : CompileError}
    (h : d.subtreeFrom fuel id = .error e) : ∃ missing, e = .nodeNotFound missing := by
  induction fuel generalizing id with
  | zero => cases h
  | succ fuel ih =>
    unfold subtreeFrom at h
    split at h
    · cases h
      exact ⟨id, rfl⟩
    · next n _ =>
      cases below : n.children.reverse.mapM (d.subtreeFrom fuel) with
      | error e' =>
        rw [below] at h
        cases h
        obtain ⟨child, -, hc⟩ := exists_of_mapM_error below
        exact ih hc
      | ok ids =>
        rw [below] at h
        cases h

private theorem relink_ne_noThemeColors : d.relink.2 ≠ .error .noThemeColors := by
  unfold relink
  dsimp only
  split
  · simp
  · split <;> simp

private theorem removeNode_ne_noThemeColors {id : NodeId} :
    (d.removeNode id).2 ≠ .error .noThemeColors := by
  unfold removeNode
  split
  · next e he =>
    obtain ⟨missing, rfl⟩ := subtreeFrom_error he
    simp
  · exact relink_ne_noThemeColors

private theorem addNode_ne_noThemeColors {n : Node} {parent : Option NodeId} :
    d.addNode n parent ≠ .error .noThemeColors := by
  intro refused
  rcases addNode_eq_error_iff.1 refused with ⟨-, named⟩ | ⟨-, _, -, -, named⟩ <;> cases named

private theorem removeNodes_ne_noThemeColors {ids : List NodeId} :
    (d.removeNodes ids).2 ≠ .error .noThemeColors := by
  induction ids generalizing d with
  | nil => simp [removeNodes]
  | cons id rest ih =>
    have first : (d.removeNode id).2 ≠ .error .noThemeColors := removeNode_ne_noThemeColors
    unfold removeNodes
    split
    · exact ih
    · next h =>
      rw [h] at first
      exact first

private theorem addIcons_ne_noThemeColors {set : String} {page : NodeId} {icons : List (String × String)} :
    (addIcons set page d icons).2 ≠ .error .noThemeColors := by
  induction icons generalizing d with
  | nil => simp [addIcons]
  | cons icon rest ih =>
    unfold addIcons
    dsimp only
    split
    · next h =>
      intro same
      cases same
      exact addNode_ne_noThemeColors h
    · split
      · next h =>
        intro same
        cases same
        exact addNode_ne_noThemeColors h
      · exact ih

/-- A document never refuses icons for want of a theme. -/
theorem importIcons_ne_noThemeColors {set : String} {icons : OrderedMap String} :
    (d.importIcons set icons).2 ≠ .error .noThemeColors := by
  unfold importIcons
  dsimp only
  split
  · next h =>
    intro same
    cases same
    exact removeNodes_ne_noThemeColors (congrArg Prod.snd h)
  · split
    · next h =>
      intro same
      cases same
      exact addNode_ne_noThemeColors h
    · split
      · simp
      · next h =>
        intro same
        cases same
        exact addIcons_ne_noThemeColors (congrArg Prod.snd h)

end Document

namespace Session

variable {s : Session}

/-- Icons are refused for want of a theme exactly if no theme has a token. -/
theorem hasStyles_iff_importIcons {set : String} {icons : OrderedMap String} :
    s.theme.hasStyles = true ↔ (s.importIcons set icons).2.result ≠ .error .noThemeColors := by
  unfold importIcons
  cases s.theme.hasStyles with
  | true => simp [Document.importIcons_ne_noThemeColors]
  | false => simp

end Session

/-! ## The default export -/

namespace ThemeModule

/-- If the theme collection has a mode, or there is none, the default export is one of the themes, that of
the current mode if there is one. -/
theorem exists_exported {d : Document} {s : ThemeSettings}
    (modes : ∀ c, d.collectionNamed? s.themeCollection = some c → c.modes ≠ []) :
    ∃ theme ∈ (ofDocument s d).themes, (ofDocument s d).exported = some theme.name ∧
      ∀ mode, (ofDocument s d).current = some mode → theme.name = Text.camelIdentifier mode := by
  unfold ofDocument
  cases hc : d.collectionNamed? s.themeCollection with
  | none => exact ⟨_, List.mem_singleton_self _, rfl, fun _ h => by cases h⟩
  | some c =>
    have exported : ∃ mode ∈ c.modes, exportedMode? c = some mode := by
      obtain ⟨first, rest, hmodes⟩ := List.exists_cons_of_ne_nil (modes c hc)
      unfold exportedMode?
      cases hd : c.defaultMode? with
      | some mode => exact ⟨mode, List.mem_of_find?_eq_some hd, rfl⟩
      | none => exact ⟨first, by simp [hmodes], by simp [hmodes]⟩
    obtain ⟨mode, listed, hmode⟩ := exported
    refine ⟨modeTheme d c mode, List.mem_map_of_mem listed, by simp [hmode, modeTheme], ?_⟩
    rintro name h
    simp only [hmode, Option.map_some, Option.some.injEq] at h
    rw [modeTheme, h]

end ThemeModule

namespace Session

variable {s : Session}

/-- What the theme of a session tells, as it stands in the text of its module. The `colors` object and every theme list
each token once. With a theme collection there is a theme for each mode, whose tokens are those of the color variables
with a color in the mode and of all paint styles, merged; without one there is a single theme, of the paint styles.
There are styles exactly if some theme has a token, and exactly then icons are not refused for want of a theme. And if
the theme collection is absent or has a mode, the one default export is that of a theme of the module, and if a mode is
current, of the one that is reported when the theme is refreshed. -/
theorem theme_merged (s : Session) :
    Layout.Spell s.settings.writer (s.theme.layouts s.settings) (s.theme.text s.settings) ∧
    ∃ colors themes exported,
      Layout.IsThemeModule s.settings colors themes exported (s.theme.layouts s.settings) ∧
      (colors.map Prod.fst).Nodup ∧
      (∀ c, s.document.collectionNamed? s.settings.theme.themeCollection = some c →
        (∀ modeId v, .ofVariable v ∈ s.document.themeSources (some c) modeId ↔
          (∃ id ∈ c.variableIds, s.document.variableById? id = some v ∧ v.resolvedType = .color) ∧
            s.document.HasColor modeId v) ∧
        List.Forall₂
          (fun mode theme => theme.1 = Text.camelIdentifier mode.name ∧
            s.document.Merges mode.modeId (s.document.themeSources (some c) mode.modeId) theme.2)
          c.modes themes) ∧
      (s.document.collectionNamed? s.settings.theme.themeCollection = none →
        ∀ modeId, ∃ tokens, themes = [(ThemeModule.fallbackName, tokens)] ∧
          s.document.Merges modeId (s.document.themeSources none modeId) tokens) ∧
      (s.theme.hasStyles = true ↔ ∃ theme ∈ themes, theme.2 ≠ []) ∧
      (∀ set icons, s.theme.hasStyles = true ↔ (s.importIcons set icons).2.result ≠ .error .noThemeColors) ∧
      ((∀ c, s.document.collectionNamed? s.settings.theme.themeCollection = some c → c.modes ≠ []) →
        ∃ theme ∈ themes, exported = some theme.1 ∧ ∀ mode, s.theme.current = some mode →
          s.refreshTheme.events = [.theme (s.theme.text s.settings) (some (theme.1 ++ "Theme"))]) := by
  refine ⟨Layout.spell_render _ _, s.theme.colors.entries,
    s.theme.themes.map fun theme => (theme.name, theme.tokens.entries), s.theme.exported,
    ThemeModule.isThemeModule_layouts _ _, OrderedMap.nodup_keys _, fun c hc => ?_, fun hc modeId => ?_, ?_,
    fun _ _ => hasStyles_iff_importIcons, fun modes => ?_⟩
  · refine ⟨fun _ _ => Document.ofVariable_mem_themeSources, ?_⟩
    rw [List.forall₂_map_right_iff]
    exact Document.merges_themes hc
  · obtain ⟨theme, only, named, merges⟩ := Document.merges_fallback hc modeId
    refine ⟨theme.tokens.entries, ?_, merges⟩
    rw [← named]
    exact congrArg (List.map _) only
  · simp [ThemeModule.hasStyles, OrderedMap.isEmpty]
  · obtain ⟨theme, listed, exported, current⟩ := ThemeModule.exists_exported modes
    refine ⟨_, List.mem_map_of_mem listed, exported, fun mode hmode => ?_⟩
    show [Event.theme _ (s.theme.current.map _)] = _
    rw [hmode, current mode hmode]
    rfl

/-- A palette with two modes, in which two variables and a paint style meet under two identifiers. -/
def mixedPalette : Document where
  name := ""
  collections :=
    [{ id := "t", name := "Theme", modes := [⟨"l", "Light"⟩, ⟨"d", "Dark"⟩], defaultModeId := "d"
       variableIds := ["p", "a", "q"] }]
  localVariables :=
    [{ id := "k", name := "Ink/900", resolvedType := .color },
      { id := "p", name := "Primary", resolvedType := .color
        valuesByMode := .ofList [("l", .color .black), ("d", .alias "k")] },
      { id := "a", name := "Accent", resolvedType := .color, valuesByMode := .ofList [("l", .alias "k")] },
      { id := "q", name := "primary", description := "Replaces the other", resolvedType := .color
        valuesByMode := .ofList [("l", .alias "k"), ("d", .alias "gone")] }]
  paintStyles := [{ id := "s", name := "Accent" }]

/-- The mixed palette has a theme for either mode, whose tokens are merged as they stand in the text, icons may be
imported, and the dark theme is the default export. -/
theorem theme_merged_mixedPalette :
    let s := Session.start {} mixedPalette
    s.theme.current = some "Dark" ∧
    (∀ set icons, (s.importIcons set icons).2.result ≠ .error .noThemeColors) ∧
    ∃ colors themes exported,
      Layout.IsThemeModule s.settings colors themes exported (s.theme.layouts s.settings) ∧
      List.Forall₂
        (fun (mode : VariableMode) theme => theme.1 = Text.camelIdentifier mode.name ∧
          s.document.Merges mode.modeId
            (s.document.themeSources (s.document.collectionNamed? "Theme") mode.modeId) theme.2)
        [⟨"l", "Light"⟩, ⟨"d", "Dark"⟩] themes ∧
      ∃ theme ∈ themes, exported = some theme.1 ∧
        s.refreshTheme.events = [.theme (s.theme.text s.settings) (some (theme.1 ++ "Theme"))] := by
  intro s
  obtain ⟨-, colors, themes, exported, written, -, themed, -, -, gate, exports⟩ := theme_merged s
  have modes : ∀ c, s.document.collectionNamed? s.settings.theme.themeCollection = some c →
      c.modes ≠ [] := by
    rintro c hc
    cases hc
    decide
  have styled : s.theme.hasStyles = true := by decide +kernel
  have current : s.theme.current = some "Dark" := by decide +kernel
  obtain ⟨theme, listed, exporting, reported⟩ := exports modes
  exact ⟨current, fun set icons => (gate set icons).1 styled, colors, themes, exported, written, (themed _ rfl).2,
    theme, listed, exporting, reported "Dark" current⟩

/-- The tokens of the mixed palette stand in the order of their first sources and have the values of their last
ones. -/
example : (Session.start {} mixedPalette).theme.themes =
    [⟨"light", .ofList [("primary", ⟨.reference "ink900", "Replaces the other"⟩), ("accent", ⟨.color .black, ""⟩)]⟩,
      ⟨"dark", .ofList [("primary", ⟨.reference "ink900", ""⟩), ("accent", ⟨.color .black, ""⟩)]⟩] := by
  decide +kernel

end Session
end Handoff
