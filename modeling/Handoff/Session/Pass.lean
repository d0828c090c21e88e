import Handoff.Bundle.Compile
import Handoff.Cache.Store
import Handoff.Session.Event

/-!
# Passes

A pass lists all components in the roster and compiles its targets one after the other, from the cache
where it may. After each target that has a bundle it reports the state of the project so far. A target
that fails keeps the bundle it had. A pass leaves out targets that are icons or no nodes.
-/

namespace Handoff

/-- A session: settings, a document with its cache, and the number of the last pass. -/
structure Session where
  settings : Settings
  store : Store
  pass : Nat := 0

/-- How a component was served: the bundle, and whether it came from the cache. -/
structure Outcome where
  bundle : Bundle
  cached : Bool
  deriving DecidableEq

/-- What a pass did. -/
structure PassSummary where
  pass : Nat := 0
  total : Nat := 0
  compiled : Nat := 0
  cached : Nat := 0
  failed : Nat := 0
  deriving DecidableEq, Repr, Inhabited

namespace Store

/-- Compile a component and keep its bundle. -/
def rebuild (settings : Settings) (s : Store) (id : NodeId) :
    Store × List LogRecord × Except CompileError Outcome :=
  match s.document.compile settings id with
  | (log, .error e) => (s, log, .error e)
  | (log, .ok b) =>
    match s.keep id b with
    | (s, .ok ()) => (s, log, .ok ⟨b, false⟩)
    | (s, .error e) =>
      (s, log ++ [⟨.warning, "Durable cache write failed for " ++ id ++ ": " ++ e.message⟩],
        .ok ⟨b, false⟩)

/-- Serve a component from the cache, unless that is to be skipped, or else compile it. -/
def serve (settings : Settings) (skipCache : Bool) (s : Store) (id : NodeId) :
    Store × List LogRecord × Except CompileError Outcome :=
  if skipCache then s.rebuild settings id
  else
    match s.lookup id with
    | ⟨s, some b, log⟩ => (s, log, .ok ⟨b, true⟩)
    | ⟨s, none, log⟩ =>
      let (s, more, result) := s.rebuild settings id
      (s, log ++ more, result)

/-- The roster entry of a component. -/
def rosterEntry (s : Store) (id : NodeId) : Except CompileError RosterEntry :=
  (s.document.describe id none).map fun descriptor =>
    let known := s.volatile? id
    { id := descriptor.id, name := descriptor.name, page := descriptor.page,
      path := descriptor.path, preview := known.map (·.preview), loading := known.isNone }

/-- The roster entries of components in order; those that cannot be described are left out with a
warning. -/
def roster (s : Store) : List NodeId → List LogRecord × List RosterEntry
  | [] => ([], [])
  | id :: rest =>
    let (log, entries) := roster s rest
    match s.rosterEntry id with
    | .ok entry => (log, entry :: entries)
    | .error e => (⟨.warning, "Skipping " ++ id ++ " in roster: " ++ e.message⟩ :: log, entries)

end Store

/-- The state inside a pass. -/
structure PassState where
  store : Store
  project : ProjectState
  summary : PassSummary
  events : List Event := []
  log : List LogRecord := []

namespace PassState

/-- Count a target that was served. -/
def countServed (summary : PassSummary) (cached : Bool) : PassSummary :=
  if cached then { summary with cached := summary.cached + 1 }
  else { summary with compiled := summary.compiled + 1 }

/-- Go on after a target that was served. -/
def served (s : PassState) (store : Store) (o : Outcome) (log : List LogRecord) : PassState :=
  let project := (s.project.add o.bundle).enter o.bundle
  { store
    project
    summary := countServed s.summary o.cached
    events := s.events ++ [.build s.summary.pass project o.bundle]
    log := s.log ++ log }

/-- The record of a failed target. -/
def failure (d : Document) (id : NodeId) (e : CompileError) : LogRecord :=
  let name := ((d.node? id).map (·.name)).getD ""
  ⟨.error, "Failed to compile '" ++ name ++ "' (" ++ id ++ "): " ++ e.message⟩

/-- Go on after a target that failed; the bundle it had still counts. -/
def failed (s : PassState) (store : Store) (id : NodeId) (e : CompileError)
    (log : List LogRecord) : PassState :=
  { s with
    store
    project :=
      match store.volatile? id with
      | some previous => s.project.add previous
      | none => s.project
    summary := { s.summary with failed := s.summary.failed + 1 }
    log := s.log ++ log ++ [failure store.document id e] }

/-- Compile one target. -/
def step (settings : Settings) (skipCache : Bool) (s : PassState) (id : NodeId) : PassState :=
  if s.store.document.isIcon id then s
  else
    match s.store.serve settings skipCache id with
    | (store, log, .ok o) => s.served store o log
    | (store, log, .error e) => s.failed store id e log

end PassState

/-- The project before the targets of a pass are compiled: the whole roster, and what the components
outside the targets have. -/
def Store.startProject (settings : Settings) (s : Store) (entries : List RosterEntry)
    (untouched : List NodeId) : ProjectState :=
  let roster := SortedMap.ofList (entries.map fun e => (e.name, e))
  let start : ProjectState :=
    { index := indexText settings (entries.map (·.name))
      pages := s.document.pages.map (·.name)
      roster
      total := roster.size }
  let known := (untouched.filterMap s.volatile?).foldl ProjectState.add start
  { known with loaded := known.countLoaded }

namespace Session

/-- The state in which a pass begins. -/
def startPass (s : Session) (components targets : List NodeId) : PassState :=
  let store := s.store.prune components
  let (log, entries) := store.roster components
  let project := store.startProject s.settings entries (components.filter (!targets.contains ·))
  { store, project, log, summary := { pass := s.pass + 1, total := project.total } }

/-- Run a pass over components, compiling the targets. -/
def runPass (s : Session) (components targets : List NodeId) (skipCache : Bool) :
    Session × PassState :=
  let final := targets.foldl (PassState.step s.settings skipCache) (s.startPass components targets)
  ({ s with store := final.store, pass := s.pass + 1 }, final)

end Session
end Handoff
