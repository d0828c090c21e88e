import Handoff.Session.Basic

/-!
# Compiling a whole document

Compiling a document loads it in a session of its own and writes the theme. The output keeps the last
bundle of every component and the last state of the project that the events report.
-/

namespace Handoff

/-- The output of compiling a document. -/
structure ProjectOutput where
  bundles : OrderedMap Bundle := .empty
  state : ProjectState := {}
  theme : String := ""
  summaries : List PassSummary := []
  cache : CacheStats := {}

/-- Figures about a compilation. -/
structure CompilationStats where
  components : Nat
  compiled : Nat
  cached : Nat
  failed : Nat
  passes : Nat
  assetCount : Nat
  iconsUsed : Nat
  filesWritten : Nat
  cache : CacheStats
  deriving DecidableEq, Repr, Inhabited

namespace ProjectOutput

/-- Keep what an event reports. -/
def collect (o : ProjectOutput) : Event → ProjectOutput
  | .build _ state bundle => { o with bundles := o.bundles.insert bundle.id bundle, state }
  | .theme code _ => { o with theme := code }
  | .notice _ => o

/-- The figures of an output, when so many files have been written. -/
def stats (o : ProjectOutput) (filesWritten : Nat) : CompilationStats where
  components := o.state.total
  compiled := (o.summaries.getLast?.getD {}).compiled
  cached := (o.summaries.head?.getD {}).cached
  failed := (o.summaries.getLast?.getD {}).failed
  passes := o.summaries.length
  assetCount := o.state.assets.size
  iconsUsed := o.state.icons.used.size
  filesWritten := filesWritten
  cache := o.cache

end ProjectOutput

/-- Write the figures, with a time of compilation. -/
def CompilationStats.toJson (s : CompilationStats) (milliseconds : Nat) : Json :=
  .object [("components", .ofNat s.components), ("compiled", .ofNat s.compiled),
    ("cached", .ofNat s.cached), ("failed", .ofNat s.failed), ("passes", .ofNat s.passes),
    ("asset_count", .ofNat s.assetCount), ("icons_used", .ofNat s.iconsUsed),
    ("files_written", .ofNat s.filesWritten), ("compile_time_ms", .ofNat milliseconds),
    ("cache", s.cache.toJson)]

namespace Session

/-- Compile everything in one pass without the cache. -/
def recompile (s : Session) : Session × Report (List PassSummary) :=
  let components := s.document.discover.elems
  if components.isEmpty then (s, { result := [] })
  else
    let (s, report) := s.compile components components true
    (s, { result := [report.result], events := report.events, log := report.log })

end Session

/-- Compile a document in a session of its own. The document comes back with what the cache keeps. -/
def compileDocument (settings : Settings) (d : Document) (skipCache : Bool) :
    Document × Report ProjectOutput :=
  let start := Session.start settings d
  let (s, loaded) := if skipCache then start.recompile else start.load
  let events := loaded.events ++ s.refreshTheme.events
  let collected := events.foldl ProjectOutput.collect {}
  (s.document,
    { result := { collected with summaries := loaded.result, cache := s.store.stats }
      events
      log := loaded.log })

end Handoff
