import Handoff.Json.Printer
import Handoff.Session.Output

/-!
# What commands print

Progress goes to the console as one line for each component, or as one JSON object for each event. Tables
line up by characters, and figures are printed one on a line.
-/

namespace Handoff.Command

/-- The line that shows an event, if it is shown. -/
def eventLine (asJson : Bool) (e : Event) : Option String :=
  if asJson then some e.toJson.compact
  else
    match e with
    | .build pass state bundle =>
      some ("   [" ++ toString pass ++ "] " ++ bundle.name ++ " (" ++ toString state.loaded ++ "/"
        ++ toString state.total ++ ")")
    | .theme _ _ => none
    | .notice message => some ("ℹ️  " ++ message)

/-- A text filled up with blanks to a number of characters. -/
def padded (width : Nat) (text : String) : String :=
  text ++ String.ofList (List.replicate (width - text.length) ' ')

/-- The line of a roster entry. -/
def rosterLine (e : RosterEntry) : String :=
  "   " ++ padded 24 e.name ++ " " ++ padded 16 e.page ++ " " ++ e.path

/-- The lines that end a compilation. -/
def resultLines (s : CompilationStats) (milliseconds : Nat) : List String :=
  [if 0 < s.failed then
      "⚠️  " ++ toString s.failed ++ " of " ++ toString s.components
        ++ " components failed, see the log for details"
    else "✅ Compilation successful!",
    "   Components: " ++ toString s.components,
    "   Files: " ++ toString s.filesWritten,
    "   Time: " ++ toString milliseconds ++ "ms"]

/-- The lines of all figures. -/
def figureLines (s : CompilationStats) : List String :=
  ["", "📊 Detailed Compilation Statistics:",
    "   Passes: " ++ toString s.passes,
    "   Compiled (last pass): " ++ toString s.compiled,
    "   Served from cache: " ++ toString s.cached,
    "   Failed: " ++ toString s.failed,
    "   Assets: " ++ toString s.assetCount,
    "   Icons used: " ++ toString s.iconsUsed,
    "", "   Cache:",
    "     Memory hits: " ++ toString s.cache.memoryHits,
    "     Durable hits: " ++ toString s.cache.durableHits,
    "     Misses: " ++ toString s.cache.misses]
    ++ (if 0 < s.cache.decodeFailures then
        ["     Decode failures: " ++ toString s.cache.decodeFailures]
      else [])
    ++ ["     Writes: " ++ toString s.cache.writes]

/-- The name and version of the program. -/
def versionLine : String := "scenec 0.1.0"

/-- The line for an invocation without a command. -/
def noCommandLine : String := "No subcommand specified. Use --help for usage information."

/-- The line that says how the program is used. -/
def usageLine : String :=
  "Usage: scenec [-c FILE] [-v] (compile | roster | theme | import-icons) INPUT [OPTIONS]"

/-- The text that reports a failure. -/
def failureText : CompileError → String
  | .inputOutput => "IO Error:"
  | e => "❌ " ++ e.message

end Handoff.Command
