import Handoff.Command.Console
import Handoff.Command.Invocation
import Handoff.Config
import Handoff.Files.Project
import Handoff.Text.Case

/-!
# Running commands

A command reads its configuration, does its task on a host and prints what it has done. The first
failure ends it; what was printed and written before stays.
-/

namespace Handoff.Command

variable {m : Type → Type} [Monad m]

/-- The configuration in a file, or none. -/
def loadConfig (h : Host m) : Option String → Act m Config
  | none => return {}
  | some path => do
    let text ← h.textOr path (.unreadableConfig path)
    Act.ofExcept (Config.parse path text)

/-- Settings with what options ask for. -/
def SettingFlags.apply (f : SettingFlags) (s : Settings) : Settings :=
  { s with
    writer :=
      { indentWidth := f.indent.getD s.writer.indentWidth
        useTabs := s.writer.useTabs || f.tabs
        useSingleQuote := s.writer.useSingleQuote && !f.doubleQuotes }
    react :=
      { s.react with
        addImport := s.react.addImport || f.addImport
        addTranslate := s.react.addTranslate || f.translate } }

/-- The settings of a run: the defaults, then the configuration, then the options. -/
def settingsOf (config : Config) (flags : SettingFlags) : Act m Settings := do
  return flags.apply (← Act.ofExcept config.settings)

/-- The folder that output goes to if nothing names one. -/
def defaultFolder : String := "generated"

/-- The output folder of a run. -/
def folderOf (config : Config) (output : Option String) : String :=
  (output.or config.outputFolder).getD defaultFolder

/-- Print lines. -/
def sayAll (h : Host m) (lines : List String) : Act m Unit := lines.forM h.say

/-- Print events. -/
def sayEvents (h : Host m) (asJson : Bool) (events : List Event) : Act m Unit :=
  sayAll h (events.filterMap (eventLine asJson))

/-- Compile a document into a folder. -/
def compile (h : Host m) (config : Config) (input : String) (output : Option String)
    (skipCache persist stats events : Bool) (flags : SettingFlags) : Act m Unit := do
  let folder := folderOf config output
  let settings ← settingsOf config flags
  if !events then h.say ("🔨 Compiling " ++ input ++ " -> " ++ folder)
  let d ← h.load input
  let (d, report) := compileDocument settings d skipCache
  h.noteAll report.log
  sayEvents h events report.events
  let written ← h.writeProject folder report.result
  if persist then h.save input d
  if !events then
    let figures := report.result.stats written
    sayAll h (resultLines figures (← h.elapsed))
    if stats then sayAll h (figureLines figures)

/-- List the components of a document. -/
def roster (h : Host m) (config : Config) (input : String) (asJson : Bool) : Act m Unit := do
  let d ← h.load input
  let s := Session.start (← settingsOf config {}) d
  let (log, entries) := s.store.roster d.discover.elems
  h.noteAll log
  if asJson then h.say (Json.array (entries.map RosterEntry.toJson)).indented
  else
    h.say ("📋 " ++ toString entries.length ++ " components in " ++ input)
    sayAll h (entries.map rosterLine)

/-- Write the theme module of a document. -/
def theme (h : Host m) (config : Config) (input : String) (output : Option String)
    (flags : SettingFlags) : Act m Unit := do
  let d ← h.load input
  let settings ← settingsOf config flags
  let t := ThemeModule.ofDocument settings.theme d
  match output with
  | some path =>
    h.write path (t.text settings)
    h.say ("✅ Theme saved to " ++ path ++ " (" ++ toString t.modes.length ++ " modes)")
  | none => h.print (t.text settings)

/-- The name of the icon in a file: small letters and digits, and hyphens between them for everything
else. -/
def iconName (stem : String) : String :=
  let hyphenated := (Text.lowercase stem.toList).map fun c => if c.isAlphanum then c else '-'
  let isHyphen (c : Char) : Bool := c = '-'
  String.ofList (((hyphenated.dropWhile isHyphen).reverse.dropWhile isHyphen).reverse)

/-- The extension of icon files. -/
def iconExtension : String := "svg"

/-- Read icon files; the last of several with one name counts. -/
def readIcons (h : Host m) (icons : OrderedMap String) : List String → Act m (OrderedMap String)
  | [] => return icons
  | path :: rest => do
    let name := iconName (Path.stem path)
    if name.isEmpty then
      h.note ⟨.warning, "Skipping " ++ path ++ ": no usable icon name"⟩
      readIcons h icons rest
    else
      let text ← h.textOr path (fun _ => .inputOutput)
      readIcons h (icons.insert name text) rest

/-- The icons in the files at or below a path. -/
def collectIcons (h : Host m) (folder : String) : Act m (OrderedMap String) := do
  let paths ← h.filesBelow folder
  readIcons h .empty (paths.filter (Path.extension? · == some iconExtension))

/-- Whether a text may be the set of icons. -/
def isIconSet (set : String) : Bool := Text.isIconName (set ++ ":icon")

/-- Import icons into a document. -/
def importIcons (h : Host m) (config : Config) (input set folder : String)
    (output : Option String) : Act m Unit := do
  if !isIconSet set then throw (.invalidIconSet set)
  let icons ← collectIcons h folder
  h.say ("🎨 Importing " ++ toString icons.size ++ " icons from " ++ folder ++ " as '" ++ set ++ "'")
  let d ← h.load input
  let s := Session.start (← settingsOf config {}) d
  let (s, report) := s.importIcons set icons
  h.noteAll report.log
  sayEvents h false report.events
  let count ← Act.ofExcept report.result
  let path := output.getD input
  h.save path s.document
  h.say ("✅ Imported " ++ toString count ++ " icons, saved " ++ path ++ " ("
    ++ toString s.document.pages.length ++ " pages)")

/-- Do a task. -/
def perform (h : Host m) (config : Config) (t : Task) : Act m Unit :=
  match t.verb with
  | .compile output skipCache persist stats events flags =>
    compile h config t.input output skipCache persist stats events flags
  | .roster asJson => roster h config t.input asJson
  | .theme output flags => theme h config t.input output flags
  | .importIcons set folder output => importIcons h config t.input set folder output

/-- Run what a command line asks for, after its configuration is read. -/
def runTask (h : Host m) (config : Option String) (task : Option Task) : Act m Unit := do
  let config ← loadConfig h config
  match task with
  | some t => perform h config t
  | none => h.say noCommandLine

/-- What is left of a run: its exit code and the text that reports a failure. -/
structure Ending where
  code : Nat
  failure : String := ""
  deriving DecidableEq, Repr, Inhabited

/-- Run a command line. -/
def run (h : Host m) (line : List String) : m Ending :=
  match Invocation.parse line with
  | .usageError => return { code := 2, failure := usageLine ++ "\n" }
  | .help => do
    h.print (usageLine ++ "\n")
    return { code := 0 }
  | .version => do
    h.print (versionLine ++ "\n")
    return { code := 0 }
  | .run config task => do
    match ← (runTask h config task).run with
    | .ok () => return { code := 0 }
    | .error e => return { code := 1, failure := failureText e ++ "\n" }

end Handoff.Command
