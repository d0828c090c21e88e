import Handoff.Bundle.Basic
import Handoff.Component.Extract
import Handoff.Module.Usage
import Handoff.Theme.Module

/-!
# Compiling one component

A component is described, extracted and written as a module; with it go the theme of the document, the
icons that the document offers, and the assets by content. Nothing about the result depends on what was
compiled before.
-/

namespace Handoff

namespace Document

/-- Every icon that the document offers, with the component that draws it. -/
def iconSources (d : Document) : OrderedMap NodeId :=
  .ofList ((d.findAll .component).filterMap fun id =>
    (d.node? id).bind fun n => if Text.isIconName n.name then some (n.name, id) else none)

/-- Whether a node is the source of an icon. -/
def isIcon (d : Document) (id : NodeId) : Bool :=
  match d.node? id with
  | some n => Text.isIconName n.name
  | none => true

/-- The targets of all components in document order, without icons. -/
def discover (d : Document) : OrderedSet NodeId :=
  .ofList (((d.findAll .component).filterMap d.compileTarget?).filter (!d.isIcon ·))

/-- The last selected node whose parent is the given node. -/
def selectedChild? (d : Document) (id : NodeId) : Option NodeId :=
  d.selection.reverse.find? fun selected =>
    match d.parent? selected with
    | some p => p.id == id
    | none => false

/-- The bundle of a described component and its model. -/
def bundleOf (s : Settings) (d : Document) (descriptor : Descriptor) (m : Model)
    (written : ComponentModule) : Bundle :=
  let sources := d.iconSources
  { id := descriptor.id
    name := descriptor.name
    page := descriptor.page
    path := descriptor.path
    code := written.text s
    theme := (ThemeModule.ofDocument s.theme d).text s
    preview := descriptor.usage s
    links := m.links
    icons := { map := sources, list := sources.keys, used := m.icons.elems }
    assets := .ofList (m.assets.values.map fun a => (a.hash, a)) }

/-- Compile the component of a node, with the log of the walk. -/
def compile (s : Settings) (d : Document) (id : NodeId) :
    List LogRecord × Except CompileError Bundle :=
  match d.describe id (d.selectedChild? id) with
  | .error e => ([], .error e)
  | .ok descriptor =>
    match d.extract descriptor with
    | (log, .error e) => (log, .error e)
    | (log, .ok m) => (log, (ComponentModule.ofModel s descriptor m).map (d.bundleOf s descriptor m))

/-- A bundle is built from a description, the model that is extracted for it, and the module of both. -/
theorem compile_eq_ok_iff {s : Settings} {d : Document} {id : NodeId} {b : Bundle} :
    (d.compile s id).2 = .ok b ↔ ∃ descriptor m written,
      d.describe id (d.selectedChild? id) = .ok descriptor ∧ (d.extract descriptor).2 = .ok m ∧
        ComponentModule.ofModel s descriptor m = .ok written ∧ b = d.bundleOf s descriptor m written := by
  unfold compile
  cases d.describe id (d.selectedChild? id) with
  | error e => simp
  | ok descriptor =>
    cases extracted : d.extract descriptor with
    | mk log result =>
      cases result with
      | error e => simp [extracted]
      | ok m =>
        cases emitted : ComponentModule.ofModel s descriptor m with
        | error e => simp [extracted, emitted, Except.map]
        | ok written => simp [extracted, emitted, Except.map, eq_comm]

/-- Icons are not discovered. -/
theorem isIcon_of_mem_discover {d : Document} {id : NodeId} (h : id ∈ d.discover.elems) :
    d.isIcon id = false := by
  have := (List.mem_filter.1 (OrderedSet.mem_ofList.1 h)).2
  simpa using this

end Document
end Handoff
