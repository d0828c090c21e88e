import Handoff.Scene.Change
import Handoff.Scene.Icons
import Handoff.Session.Pass

/-!
# Sessions

A session keeps a document compiled. Loading runs a pass from the cache and, if anything came from
there, a second pass that compiles everything anew. Changes recompile the components that own the
changed nodes. The theme can be written anew, and icons can be imported once there is a theme.
-/

namespace Handoff

/-- What an activity of a session yields, next to the session after it. -/
structure Report (α : Type) where
  result : α
  events : List Event := []
  log : List LogRecord := []

namespace Session

/-- A session over a document with the tiers that settings name. -/
def start (settings : Settings) (document : Document) : Session where
  settings := settings
  store := { document, durable := .ofSettings settings.cache }

/-- The document of a session. -/
def document (s : Session) : Document := s.store.document

/-- A session with another document. The cache and the pass number stay. -/
def withDocument (s : Session) (document : Document) : Session :=
  { s with store := { s.store with document } }

/-- Run a pass and report its summary. -/
def compile (s : Session) (components targets : List NodeId) (skipCache : Bool) :
    Session × Report PassSummary :=
  let (s, final) := s.runPass components targets skipCache
  (s, { result := final.summary, events := final.events, log := final.log })

/-- Serve one component. -/
def compileComponent (s : Session) (id : NodeId) (skipCache : Bool) :
    Session × Report (Except CompileError Outcome) :=
  let (store, log, result) := s.store.serve s.settings skipCache id
  ({ s with store }, { result, log })

/-- Load all components: from the cache, and anew if anything came from the cache. -/
def load (s : Session) : Session × Report (List PassSummary) :=
  let components := s.document.discover.elems
  if components.isEmpty then (s, { result := [] })
  else
    let (s, first) := s.compile components components false
    if first.result.cached = 0 then
      (s, { result := [first.result], events := first.events, log := first.log })
    else
      let (s, second) := s.compile components components true
      (s,
        { result := [first.result, second.result], events := first.events ++ second.events,
          log := first.log ++ second.log })

end Session

/-- The field of a node that tools write to. -/
def pluginDataField : String := "pluginData"

/-- Whether a change asks for compilation at all. -/
def Change.isRelevant (c : Change) : Bool :=
  match c.kind with
  | .create => !c.removed
  | .propertyChange => !c.removed && !c.properties.contains pluginDataField
  | _ => false

/-- The component that a change asks to compile. -/
def Document.changedTarget? (d : Document) (c : Change) : Option NodeId :=
  if c.isRelevant && d.contains c.node then d.owningTarget? c.node else none

/-- The components that changes ask to compile, in the order of the changes. -/
def Document.updatedTargets (d : Document) (changes : List Change) : OrderedSet NodeId :=
  .ofList (changes.filterMap d.changedTarget?)

namespace Session

/-- Compile what changes ask for. Without components or targets there is no pass. -/
def handleChanges (s : Session) (changes : List Change) :
    Session × Report (Option PassSummary) :=
  let components := s.document.discover.elems
  let targets := (s.document.updatedTargets changes).elems
  if components.isEmpty || targets.isEmpty then (s, { result := none })
  else
    let (s, report) := s.compile components targets true
    (s, { result := some report.result, events := report.events, log := report.log })

/-- Go over to a new snapshot of the document, which takes over the plugin data that it lacks, and
compile what has changed. -/
def reload (s : Session) (snapshot : Document) :
    Session × Report (List Change × Option PassSummary) :=
  let document := snapshot.adoptPluginData s.document
  let changes := s.document.diff document
  let s := s.withDocument document
  if changes.isEmpty then (s, { result := ([], none) })
  else
    let (s, report) := s.handleChanges changes
    (s, { result := (changes, report.result), events := report.events, log := report.log })

/-- The theme module of the document. -/
def theme (s : Session) : ThemeModule := ThemeModule.ofDocument s.settings.theme s.document

/-- Write the theme anew. -/
def refreshTheme (s : Session) : Report ThemeModule :=
  let t := s.theme
  let current := t.current.map fun name => Text.camelIdentifier name ++ "Theme"
  { result := t, events := [.theme (t.text s.settings) current] }

/-- Import icons, if the theme has a color. -/
def importIcons (s : Session) (set : String) (icons : OrderedMap String) :
    Session × Report (Except CompileError Nat) :=
  if s.theme.hasStyles then
    let (document, result) := s.document.importIcons set icons
    (s.withDocument document, { result })
  else
    (s,
      { result := .error .noThemeColors,
        events := [.notice "Generate a theme before importing icons"] })

end Session
end Handoff
