import Handoff.Json.Printer
import Handoff.Json.Reader
import Handoff.Scene.Linking
import Handoff.Scene.NodeJson

/-!
# Snapshots of documents

A snapshot is the JSON text of a document: its nodes in order with their child lists, its variables,
styles and selection. Parent links are not written; reading a snapshot derives them.
-/

namespace Handoff

namespace Document

/-- The content of a snapshot: a document whose nodes are not linked yet, and the nodes. -/
def content? (j : Json) : Option (Document × List Node) := do
  let f ← j.fields? ["name", "nodes", "variableCollections", "variables", "paintStyles", "selection"]
  let name ← f.required "name" Json.string?
  let nodes ← f.withDefault "nodes" [] (Json.list? Node.ofJson?)
  let collections ←
    f.withDefault "variableCollections" [] (Json.list? VariableCollection.ofJson?)
  let localVariables ← f.withDefault "variables" [] (Json.list? Variable.ofJson?)
  let paintStyles ← f.withDefault "paintStyles" [] (Json.list? PaintStyle.ofJson?)
  let selection ← f.withDefault "selection" [] (Json.list? Json.string?)
  return ({ name, collections, localVariables, paintStyles, selection }, nodes)

/-- Read a document. -/
def ofJson (j : Json) : Except CompileError Document :=
  match content? j with
  | some (d, nodes) => d.ofNodes? nodes
  | none => .error .malformedJson

/-- Read the text of a snapshot. -/
def parse (source : String) : Except CompileError Document :=
  match Json.parse? source with
  | some j => ofJson j
  | none => .error .malformedJson

/-- Write a document. -/
def toJson (d : Document) : Json :=
  .object [("name", .string d.name), ("nodes", .array (d.nodes.map Node.toJson)),
    ("variableCollections", .array (d.collections.map VariableCollection.toJson)),
    ("variables", .array (d.localVariables.map Variable.toJson)),
    ("paintStyles", .array (d.paintStyles.map PaintStyle.toJson)),
    ("selection", .ofStrings d.selection)]

/-- The text of a snapshot. -/
def print (d : Document) : String := d.toJson.indented

end Document
end Handoff
