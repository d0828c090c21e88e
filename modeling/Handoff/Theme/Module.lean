import Handoff.Module.Printer
import Handoff.Theme.Token

/-!
# The theme module

The theme module declares the flat `colors` object, one theme object for each mode of the theme
collection, and the breakpoints of the layout; the theme of the default mode is its default export. A
document without a theme collection has one theme, made of its paint styles.
-/

namespace Handoff

/-- A theme object. -/
structure Theme where
  name : String
  tokens : Tokens
  deriving DecidableEq

/-- The theme module. -/
structure ThemeModule where
  colors : Tokens
  themes : List Theme
  /-- The name of the theme that is the default export. -/
  exported : Option String
  /-- The name of the default mode. -/
  current : Option String
  modes : List String
  deriving DecidableEq

namespace ThemeModule

/-- Whether some theme has a token. -/
def hasStyles (t : ThemeModule) : Bool := t.themes.any (!·.tokens.isEmpty)

/-- The theme of a mode: its variables first, then all paint styles. -/
def modeTheme (d : Document) (c : VariableCollection) (mode : VariableMode) : Theme where
  name := Text.camelIdentifier mode.name
  tokens := .ofList (d.modeContributions c mode.modeId ++ d.styleContributions)

/-- The mode whose theme is exported: the default mode, or the first if there is no such mode. -/
def exportedMode? (c : VariableCollection) : Option VariableMode :=
  c.defaultMode?.or c.modes.head?

/-- The name of the only theme of a document without a theme collection. -/
def fallbackName : String := "default"

/-- The theme module of a document. -/
def ofDocument (s : ThemeSettings) (d : Document) : ThemeModule :=
  let colors := ((d.collectionNamed? s.colorCollection).map d.colorTokens).getD .empty
  match d.collectionNamed? s.themeCollection with
  | some c =>
    let exported := exportedMode? c
    { colors
      themes := c.modes.map (modeTheme d c)
      exported := exported.map fun mode => Text.camelIdentifier mode.name
      current := exported.map (·.name)
      modes := c.modes.map (·.name) }
  | none =>
    { colors
      themes := [⟨fallbackName, .ofList d.styleContributions⟩]
      exported := some fallbackName
      current := none
      modes := [] }

/-- The smallest widths of the layouts. -/
def breakpoints : List (String × Nat) :=
  [("xs", 0), ("sm", 576), ("md", 768), ("lg", 992), ("xl", 1200)]

end ThemeModule

/-- The text of a token's value. -/
def TokenValue.text (s : Settings) : TokenValue → String
  | color c => s.quoted c.text
  | reference token => "colors." ++ token

/-- The lines of a token. -/
def tokenLayouts (s : Settings) (e : String × Token) : List Layout :=
  (if e.2.comment.isEmpty then [] else [Layout.line ("/** " ++ e.2.comment ++ " */")])
    ++ [.line (e.1 ++ ": " ++ e.2.value.text s ++ ",")]

/-- The block of a theme. -/
def Theme.layout (s : Settings) (t : Theme) : Layout :=
  bracedBlock ("export const " ++ t.name ++ "Theme = ") ";"
    (if t.tokens.isEmpty then [.line "// No local color styles or color variables found"]
    else [bracedBlock "colors: " "," (t.tokens.entries.flatMap (tokenLayouts s))])

namespace ThemeModule

/-- The block of the `colors` object. -/
def colorsLayout (s : Settings) (t : ThemeModule) : Layout :=
  bracedBlock "export const colors = " ";"
    (if t.colors.isEmpty then [.line "// No color variables found"]
    else t.colors.entries.flatMap (tokenLayouts s))

/-- The block of the breakpoints. -/
def breakpointsLayout : Layout :=
  bracedBlock "export const breakpoints = " ";"
    (breakpoints.map fun (name, width) => .line (name ++ ": " ++ toString width ++ ","))

/-- The layout of the theme module. -/
def layouts (s : Settings) (t : ThemeModule) : List Layout :=
  [t.colorsLayout s, .blank] ++ t.themes.flatMap (fun theme => [theme.layout s, .blank])
    ++ (t.exported.toList.map fun name => .line ("export default " ++ name ++ "Theme;"))
    ++ [.blank, breakpointsLayout]

/-- The text of the theme module. -/
def text (s : Settings) (t : ThemeModule) : String := Layout.render s.writer (t.layouts s)

end ThemeModule
end Handoff
