import Handoff.Bundle.Basic
import Handoff.Scene.Edit
import Handoff.Settings

/-!
# Cache tiers

A tier keeps bundles by the ids of the components they were stored for. One kind of tier is a table
that lives as long as the session; the other keeps the text of a bundle on the node itself, so that it
is saved with the document. An empty text there is no bundle.
-/

namespace Handoff

/-- A place that keeps bundles. -/
inductive Tier where
  | memory (entries : OrderedMap Bundle)
  | nodeData (namespaceName key : String)

namespace Tier

/-- The name of a tier in messages. -/
def label : Tier → String
  | memory _ => "memory"
  | nodeData _ _ => "node-data"

/-- The tier that settings name for bundles saved with the document. -/
def ofSettings (s : CacheSettings) : Tier := nodeData s.namespaceName s.key

/-- The text of the bundle that a node keeps. -/
def payload? (d : Document) (namespaceName key : String) (id : NodeId) : Option String :=
  (d.pluginValue? id namespaceName key).filter (!·.isEmpty)

/-- The bundle kept for an id: nothing if there is none, an error if its text cannot be read. -/
def read (t : Tier) (d : Document) (id : NodeId) : Except CompileError (Option Bundle) :=
  match t with
  | memory entries => .ok (entries.get? id)
  | nodeData namespaceName key =>
    match payload? d namespaceName key id with
    | none => .ok none
    | some text =>
      match Bundle.parse? text with
      | some b => .ok (some b)
      | none => .error (.undecodableBundle id)

/-- Keep a bundle for an id in place of what was kept before. -/
def write (t : Tier) (d : Document) (id : NodeId) (b : Bundle) :
    Except CompileError (Tier × Document) :=
  match t with
  | memory entries => .ok (memory (entries.insert id b), d)
  | nodeData namespaceName key =>
    match d.setPluginValue id namespaceName key b.print with
    | .ok d' => .ok (t, d')
    | .error _ => .error (.bundleNotWritten id)

/-- Whether something is kept for an id, readable or not. -/
def contains (t : Tier) (d : Document) (id : NodeId) : Bool :=
  match t with
  | memory entries => entries.contains id
  | nodeData namespaceName key => (payload? d namespaceName key id).isSome

/-- Keep only what is kept for the given ids. What a node keeps stays as long as the node. -/
def retain (t : Tier) (keep : NodeId → Bool) : Tier :=
  match t with
  | memory entries => memory (entries.filterKeys keep)
  | nodeData namespaceName key => nodeData namespaceName key

/-- Reading from a table never fails. -/
theorem read_memory (entries : OrderedMap Bundle) (d : Document) (id : NodeId) :
    (memory entries).read d id = .ok (entries.get? id) := rfl

end Tier
end Handoff
