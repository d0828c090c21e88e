import Handoff.Json.Record

/-!
# Settings

What a user may choose about the generated modules: framework lines, layout and quotes, the names of
the variable collections, the icon component, and where bundles are kept in the document. Every group
and every key has a default.
-/

namespace Handoff

/-- The framework that modules are written for. -/
inductive Flavor where
  | reactNative
  deriving DecidableEq, Repr, Inhabited

namespace Flavor

/-- The token of a flavor. -/
def token : Flavor → String
  | .reactNative => "react-native"

/-- The flavor of a token. -/
def ofToken? (token : String) : Option Flavor :=
  [reactNative].find? (·.token == token)

end Flavor

/-- Lines for the framework. -/
structure ReactSettings where
  flavor : Flavor := .reactNative
  addImport : Bool := false
  addTranslate : Bool := false
  deriving DecidableEq, Repr, Inhabited

/-- Indentation and quotes. -/
structure WriterSettings where
  indentWidth : Nat := 2
  useTabs : Bool := false
  useSingleQuote : Bool := true
  deriving DecidableEq, Repr, Inhabited

/-- The names of the variable collections. -/
structure ThemeSettings where
  themeCollection : String := "Theme"
  colorCollection : String := "Colors"
  deriving DecidableEq, Repr, Inhabited

/-- The component that renders imported icons, and the module it comes from. -/
structure IconSettings where
  component : String := "Icon"
  importPath : String := "react-native-iconify"
  deriving DecidableEq, Repr, Inhabited

/-- Where a node keeps its bundle. -/
structure CacheSettings where
  namespaceName : String := "scenec"
  key : String := "data"
  deriving DecidableEq, Repr, Inhabited

/-- All settings. -/
structure Settings where
  react : ReactSettings := {}
  writer : WriterSettings := {}
  theme : ThemeSettings := {}
  icons : IconSettings := {}
  cache : CacheSettings := {}
  compileYield : Nat := 1
  themeInterval : Nat := 300
  deriving DecidableEq, Repr, Inhabited

namespace ReactSettings

/-- Read the framework settings in a style of records. -/
def read? (style : Json.RecordStyle) (j : Json) : Option ReactSettings := do
  let f ← j.fieldsIn? style ["flavor", "add_import", "add_translate"]
  let flavor ← f.withDefault "flavor" .reactNative (fun j => (j.tokenIn? style).bind Flavor.ofToken?)
  let addImport ← f.withDefault "add_import" false Json.bool?
  let addTranslate ← f.withDefault "add_translate" false Json.bool?
  return { flavor, addImport, addTranslate }

/-- Write the framework settings. -/
def toJson (s : ReactSettings) : Json :=
  .object [("flavor", .string s.flavor.token), ("add_import", .bool s.addImport),
    ("add_translate", .bool s.addTranslate)]

end ReactSettings

namespace WriterSettings

/-- Read the layout settings in a style of records. -/
def read? (style : Json.RecordStyle) (j : Json) : Option WriterSettings := do
  let f ← j.fieldsIn? style ["indent_number_of_spaces", "use_tabs", "use_single_quote"]
  let indentWidth ← f.withDefault "indent_number_of_spaces" 2 Json.nat?
  let useTabs ← f.withDefault "use_tabs" false Json.bool?
  let useSingleQuote ← f.withDefault "use_single_quote" true Json.bool?
  return { indentWidth, useTabs, useSingleQuote }

/-- Write the layout settings. -/
def toJson (s : WriterSettings) : Json :=
  .object [("indent_number_of_spaces", .ofNat s.indentWidth), ("use_tabs", .bool s.useTabs),
    ("use_single_quote", .bool s.useSingleQuote)]

end WriterSettings

namespace ThemeSettings

/-- Read the names of the collections in a style of records. -/
def read? (style : Json.RecordStyle) (j : Json) : Option ThemeSettings := do
  let f ← j.fieldsIn? style ["theme_collection", "color_collection"]
  let themeCollection ← f.withDefault "theme_collection" "Theme" Json.string?
  let colorCollection ← f.withDefault "color_collection" "Colors" Json.string?
  return { themeCollection, colorCollection }

/-- Write the names of the collections. -/
def toJson (s : ThemeSettings) : Json :=
  .object [("theme_collection", .string s.themeCollection),
    ("color_collection", .string s.colorCollection)]

end ThemeSettings

namespace IconSettings

/-- Read the icon settings in a style of records. -/
def read? (style : Json.RecordStyle) (j : Json) : Option IconSettings := do
  let f ← j.fieldsIn? style ["component", "import_path"]
  let component ← f.withDefault "component" "Icon" Json.string?
  let importPath ← f.withDefault "import_path" "react-native-iconify" Json.string?
  return { component, importPath }

/-- Write the icon settings. -/
def toJson (s : IconSettings) : Json :=
  .object [("component", .string s.component), ("import_path", .string s.importPath)]

end IconSettings

namespace CacheSettings

/-- Read the place of bundles in a style of records. -/
def read? (style : Json.RecordStyle) (j : Json) : Option CacheSettings := do
  let f ← j.fieldsIn? style ["namespace", "key"]
  let namespaceName ← f.withDefault "namespace" "scenec" Json.string?
  let key ← f.withDefault "key" "data" Json.string?
  return { namespaceName, key }

/-- Write the place of bundles. -/
def toJson (s : CacheSettings) : Json :=
  .object [("namespace", .string s.namespaceName), ("key", .string s.key)]

end CacheSettings

namespace Settings

/-- Read all settings. -/
def ofJson? (j : Json) : Option Settings := do
  let f ← j.fields? ["react", "writer", "theme", "icons", "cache", "compile_yield_ms",
    "theme_interval_ms"]
  let react ← f.withDefault "react" {} (ReactSettings.read? Json.recordStyle)
  let writer ← f.withDefault "writer" {} (WriterSettings.read? Json.recordStyle)
  let theme ← f.withDefault "theme" {} (ThemeSettings.read? Json.recordStyle)
  let icons ← f.withDefault "icons" {} (IconSettings.read? Json.recordStyle)
  let cache ← f.withDefault "cache" {} (CacheSettings.read? Json.recordStyle)
  let compileYield ← f.withDefault "compile_yield_ms" 1 Json.nat?
  let themeInterval ← f.withDefault "theme_interval_ms" 300 Json.nat?
  return { react, writer, theme, icons, cache, compileYield, themeInterval }

/-- Write all settings. -/
def toJson (s : Settings) : Json :=
  .object [("react", s.react.toJson), ("writer", s.writer.toJson), ("theme", s.theme.toJson),
    ("icons", s.icons.toJson), ("cache", s.cache.toJson), ("compile_yield_ms", .ofNat s.compileYield),
    ("theme_interval_ms", .ofNat s.themeInterval)]

end Settings
end Handoff
