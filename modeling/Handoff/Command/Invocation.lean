import Handoff.Command.Option
import Handoff.Settings

/-!
# Invocations

A command line names at most one command, with its operand and options, after the options that belong
to every command. What the line says becomes a value; a line that says nothing sensible is a usage
error.
-/

namespace Handoff.Command

/-- Settings that are given as options. -/
structure SettingFlags where
  indent : Option Nat := none
  tabs : Bool := false
  doubleQuotes : Bool := false
  addImport : Bool := false
  translate : Bool := false
  deriving DecidableEq, Repr, Inhabited

/-- A command. -/
inductive Verb where
  | compile (output : Option String) (skipCache persist stats events : Bool) (flags : SettingFlags)
  | roster (asJson : Bool)
  | theme (output : Option String) (flags : SettingFlags)
  | importIcons (set folder : String) (output : Option String)
  deriving DecidableEq, Repr, Inhabited

/-- A command with the document it is about. -/
structure Task where
  input : String
  verb : Verb
  deriving DecidableEq, Repr, Inhabited

/-- What a command line asks for. -/
inductive Invocation where
  | run (config : Option String) (task : Option Task)
  | version
  | help
  | usageError
  deriving DecidableEq, Repr, Inhabited

/-- The option that every list of options ends with. -/
def helpRule : OptionRule := { name := "help", letter := 'h', kind := .answer }

/-- The options before a command. -/
def commonRules : List OptionRule :=
  [{ name := "config", letter := 'c', kind := .setting },
    { name := "verbose", letter := 'v', kind := .repeatable },
    { name := "version", letter := 'V', kind := .answer }, helpRule]

/-- The options that set settings. -/
def settingRules : List OptionRule :=
  [{ name := "indent", kind := .count }, { name := "tabs" }, { name := "double-quotes" },
    { name := "add-import" }, { name := "translate" }, helpRule]

/-- The option that names an output. -/
def outputRule : OptionRule := { name := "output", letter := 'o', kind := .setting }

/-- The options of each command. -/
def commandRules : List (String × List OptionRule) :=
  [("compile", [outputRule, { name := "skip-cache" }, { name := "persist" }, { name := "stats" },
      { name := "events" }] ++ settingRules),
    ("roster", [{ name := "json" }, helpRule]),
    ("theme", outputRule :: settingRules),
    ("import-icons", [{ name := "set", letter := 's', kind := .setting },
      { name := "dir", letter := 'd', kind := .setting }, outputRule, helpRule])]

/-- The settings that options give. -/
def settingFlags (g : Given) : SettingFlags :=
  { indent := (g.value? "indent").bind count?
    tabs := g.has "tabs"
    doubleQuotes := g.has "double-quotes"
    addImport := g.has "add-import"
    translate := g.has "translate" }

/-- The command that a name and its options stand for. -/
def verb? (name : String) (g : Given) : Option Verb :=
  match name with
  | "compile" => some (.compile (g.value? "output") (g.has "skip-cache") (g.has "persist")
      (g.has "stats") (g.has "events") (settingFlags g))
  | "roster" => some (.roster (g.has "json"))
  | "theme" => some (.theme (g.value? "output") (settingFlags g))
  | "import-icons" => do
    return .importIcons (← g.value? "set") (← g.value? "dir") (g.value? "output")
  | _ => none

/-- The task of a command with what its line gives; it needs one operand. -/
def task? (name : String) (g : Given) : Option Task :=
  match g.operands with
  | [input] => (verb? name g).map (⟨input, ·⟩)
  | _ => none

/-- Read the line of a command. -/
def readCommand (config : Option String) (name : String) (rules : List OptionRule)
    (line : List String) : Invocation :=
  match LineShape.read { rules, operands := 1 } line {} none with
  | .done g =>
    match task? name g with
    | some task => .run config (some task)
    | none => .usageError
  | .answer _ => .help
  | _ => .usageError

/-- The name of the command that explains the others. -/
def helpName : String := "help"

/-- The names of all commands. -/
def commandNames : List String := commandRules.map (·.1) ++ [helpName]

/-- Ask for help, about at most one command. -/
def readHelp : List String → Invocation
  | [] => .help
  | [name] => if commandNames.contains name then .help else .usageError
  | _ => .usageError

/-- Read a command line. -/
def Invocation.parse (line : List String) : Invocation :=
  match LineShape.read { rules := commonRules, commands := commandNames } line {} none with
  | .done g => .run (g.value? "config") none
  | .command g name rest =>
    match commandRules.lookup name with
    | some rules => readCommand (g.value? "config") name rules rest
    | none => readHelp rest
  | .answer name => if name = "version" then .version else .help
  | .invalid => .usageError

end Handoff.Command
