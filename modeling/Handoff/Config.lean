import Handoff.Error
import Handoff.Json.Reader
import Handoff.Settings
import Handoff.Toml.Reader

/-!
# Configuration files

A configuration file, in JSON or TOML, may replace groups of settings and name the output folder. A
group that is present replaces the default group; keys that it lacks have their default values. Some
values are refused: a cache needs a place, and the theme an interval.
-/

namespace Handoff

/-- What a configuration file asks for. -/
structure Config where
  react : Option ReactSettings := none
  writer : Option WriterSettings := none
  theme : Option ThemeSettings := none
  icons : Option IconSettings := none
  cache : Option CacheSettings := none
  compileYield : Option Nat := none
  themeInterval : Option Nat := none
  outputFolder : Option String := none
  deriving DecidableEq, Repr, Inhabited

namespace Config

/-- The keys of a configuration file. -/
def keys : List String :=
  ["react", "writer", "theme", "icons", "cache", "compile_yield_ms", "theme_interval_ms",
    "output_directory"]

/-- Whether a value may be read as a configuration: a list has to give every key its value. -/
def hasAllItems : Json → Bool
  | .array items => items.length == keys.length
  | _ => true

/-- Arrays may go on after the last field, and a key that is a token stands for an empty table or an
empty array. -/
def tomlStyle : Json.RecordStyle :=
  ⟨true, fun j =>
    match j with
    | .object [] => true
    | .array [] => true
    | _ => false⟩

/-- Read a configuration in a style of records. -/
def read? (style : Json.RecordStyle) (j : Json) : Option Config := do
  let f ← if hasAllItems j then j.fields? keys else none
  let react ← f.optional "react" (ReactSettings.read? style)
  let writer ← f.optional "writer" (WriterSettings.read? style)
  let theme ← f.optional "theme" (ThemeSettings.read? style)
  let icons ← f.optional "icons" (IconSettings.read? style)
  let cache ← f.optional "cache" (CacheSettings.read? style)
  let compileYield ← f.optional "compile_yield_ms" Json.nat?
  let themeInterval ← f.optional "theme_interval_ms" Json.nat?
  let outputFolder ← f.optional "output_directory" Json.string?
  return { react, writer, theme, icons, cache, compileYield, themeInterval, outputFolder }

/-- Read the text of a configuration file; the end of its path tells the format. -/
def parse (path text : String) : Except CompileError Config :=
  if path.endsWith ".json" then
    match (Json.parse? text).bind (read? Json.recordStyle) with
    | some c => .ok c
    | none => .error .malformedJsonConfig
  else if path.endsWith ".toml" then
    match (Toml.parse? text).bind (read? tomlStyle) with
    | some c => .ok c
    | none => .error .malformedTomlConfig
  else .error .unknownConfigFormat

/-- Whether a cache has no place to keep bundles. -/
def isPlaceless (s : CacheSettings) : Bool := s.namespaceName.isEmpty || s.key.isEmpty

/-- The default settings with what a configuration asks for. -/
def settings (c : Config) : Except CompileError Settings :=
  if (c.cache.map isPlaceless).getD false then .error .emptyCacheLocation
  else if c.themeInterval = some 0 then .error .zeroThemeInterval
  else
    let defaults : Settings := {}
    .ok
      { react := c.react.getD defaults.react
        writer := c.writer.getD defaults.writer
        theme := c.theme.getD defaults.theme
        icons := c.icons.getD defaults.icons
        cache := c.cache.getD defaults.cache
        compileYield := c.compileYield.getD defaults.compileYield
        themeInterval := c.themeInterval.getD defaults.themeInterval }

end Config
end Handoff
