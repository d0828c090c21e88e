import Handoff.Proofs.Bundle.PluginData
import Handoff.Proofs.Scene.Edit
import Handoff.Scene.Builder
import Handoff.Scene.Icons

/-!
# The document store

A document that is sound and has no cycles stays so under every operation on it: adding nodes, removing
subtrees, keeping plugin data, replacing the icons page, and every call of a builder. Each operation
either edits in place, or adds childless nodes and takes subtrees out; so one lemma for each of these
carries whole runs of operations and of calls.
-/

namespace Handoff

namespace Document

/-- A sound document whose nodes are nested without cycles. -/
structure Nested (d : Document) : Prop where
  sound : d.Sound
  acyclic : d.Acyclic

section

variable {d e : Document}

namespace Nested

/-- A document with the outline of a nested one is nested. -/
theorem of_outline (nested : d.Nested) (h : e.outline = d.outline) : e.Nested :=
  ⟨nested.sound.of_outline h, nested.acyclic.of_outline h⟩

/-- Changing a node without touching its id and child list keeps a document nested. -/
theorem modifyNode (nested : d.Nested) {id : NodeId} {f : Node → Node}
    (keeps : ∀ n, (f n).outline = n.outline) : (d.modifyNode id f).Nested :=
  nested.of_outline (outline_modifyNode keeps)

/-- Adding a node without children keeps a document nested. -/
theorem addNode (nested : d.Nested) {node : Node} {parent : Option NodeId}
    (childless : node.children = []) (h : d.addNode node parent = .ok e) : e.Nested :=
  ⟨nested.sound.addNode childless h, nested.acyclic.addNode nested.sound childless h⟩

/-- Removing a subtree keeps a document nested. -/
theorem removeNode (nested : d.Nested) (id : NodeId) : (d.removeNode id).1.Nested := by
  obtain ⟨sound, acyclic⟩ := removeNode_keeps nested.sound nested.acyclic id
  exact ⟨sound, acyclic⟩

end Nested

/-! ## Operations -/

/-- An operation on a document from outside. -/
inductive Operation where
  | addNode (node : Node) (parent : Option NodeId)
  | removeNode (id : NodeId)
  | setPluginValue (id : NodeId) (namespaceName key value : String)
  | adoptPluginData (previous : Document)
  | importIcons (set : String) (icons : OrderedMap String)

/-- Whether a node that an operation adds is fresh: it has no children yet. -/
def Operation.Admissible : Operation → Prop
  | .addNode node _ => node.children = []
  | _ => True

/-- Whether an operation is made of one edit. An import is made of many. -/
def Operation.IsSingle : Operation → Prop
  | .importIcons _ _ => False
  | _ => True

/-- The document of an edit, or the one before it if the edit fails. -/
def settle (d : Document) : Except CompileError Document → Document × Except CompileError Unit
  | .ok e => (e, .ok ())
  | .error err => (d, .error err)

/-- The document after an operation, and whether the operation succeeded. -/
def perform (d : Document) : Operation → Document × Except CompileError Unit
  | .addNode node parent => d.settle (d.addNode node parent)
  | .removeNode id => d.removeNode id
  | .setPluginValue id namespaceName key value =>
    d.settle (d.setPluginValue id namespaceName key value)
  | .adoptPluginData previous => (d.adoptPluginData previous, .ok ())
  | .importIcons set icons =>
    ((d.importIcons set icons).1, (d.importIcons set icons).2.map fun _ => ())

/-- The document after operations, failed ones among them. -/
def performAll (d : Document) (operations : List Operation) : Document :=
  operations.foldl (fun d operation => (d.perform operation).1) d

namespace Nested

private theorem settle (nested : d.Nested) {result : Except CompileError Document}
    (h : ∀ e, result = .ok e → e.Nested) : (d.settle result).1.Nested := by
  cases result with
  | ok e => exact h e rfl
  | error err => exact nested

/-- Removing several subtrees keeps a document nested. -/
theorem removeNodes (nested : d.Nested) (ids : List NodeId) : (d.removeNodes ids).1.Nested := by
  induction ids generalizing d with
  | nil => exact nested
  | cons id rest ih =>
    have after := nested.removeNode id
    unfold Document.removeNodes
    split
    · next removed heq =>
      rw [heq] at after
      exact ih after
    · next removed err heq =>
      rw [heq] at after
      exact after

private theorem addIcons (nested : d.Nested) (set : String) (pageId : NodeId)
    (icons : List (String × String)) : (addIcons set pageId d icons).1.Nested := by
  induction icons generalizing d with
  | nil => exact nested
  | cons icon rest ih =>
    unfold Document.addIcons
    dsimp only
    split
    · exact nested
    · next withComponent hcomponent =>
      have component := nested.addNode rfl hcomponent
      split
      · exact component
      · next withVector hvector => exact ih (component.addNode rfl hvector)

/-- Importing icons keeps a document nested, even where it fails midway. -/
theorem importIcons (nested : d.Nested) (set : String) (icons : OrderedMap String) :
    (d.importIcons set icons).1.Nested := by
  have cleared := nested.removeNodes ((d.pages.filter (·.name == iconsPageName)).map (·.id))
  unfold Document.importIcons
  dsimp only
  split
  · next after err heq =>
    rw [heq] at cleared
    exact cleared
  · next after heq =>
    rw [heq] at cleared
    split
    · exact cleared
    · next paged hpage =>
      have filled := (cleared.addNode rfl hpage).addIcons set ("icons:" ++ set) icons.entries
      split <;> next heq =>
        rw [heq] at filled
        exact filled

/-- Every operation keeps a document nested, whether it succeeds or fails. -/
theorem perform (nested : d.Nested) {operation : Operation} (fresh : operation.Admissible) :
    (d.perform operation).1.Nested := by
  cases operation with
  | addNode node parent => exact nested.settle fun e h => nested.addNode fresh h
  | removeNode id => exact nested.removeNode id
  | setPluginValue id namespaceName key value =>
    refine nested.settle fun e h => ?_
    unfold setPluginValue at h
    split at h
    · cases h
      exact nested.modifyNode fun _ => rfl
    · cases h
  | adoptPluginData previous =>
    exact nested.of_outline (outline_of_bare_eq (bare_adoptPluginData previous))
  | importIcons set icons => exact nested.importIcons set icons

/-- Every run of operations keeps a document nested. -/
theorem performAll (nested : d.Nested) {operations : List Operation}
    (fresh : ∀ operation ∈ operations, operation.Admissible) : (d.performAll operations).Nested := by
  induction operations generalizing d with
  | nil => exact nested
  | cons operation rest ih =>
    exact ih (nested.perform (fresh operation List.mem_cons_self))
      fun later h => fresh later (List.mem_cons_of_mem _ h)

/-- A single edit that fails leaves a sound document unchanged. -/
theorem unchanged_of_error (nested : d.Nested) {operation : Operation} (single : operation.IsSingle)
    {err : CompileError} (h : (d.perform operation).2 = .error err) : (d.perform operation).1 = d := by
  have settled (result : Except CompileError Document) (h : (d.settle result).2 = .error err) :
      (d.settle result).1 = d := by
    cases result with
    | ok e => cases h
    | error _ => rfl
  cases operation with
  | addNode node parent => exact settled _ h
  | removeNode id => exact unchanged_of_removeNode nested.sound (Prod.ext rfl h)
  | setPluginValue id namespaceName key value => exact settled _ h
  | adoptPluginData previous => cases h
  | importIcons set icons => exact single.elim

end Nested

end

end Document

/-! ## Builders -/

namespace Builder

/-- A call of a builder. A free edit comes with the proof that it keeps ids and child lists. -/
inductive Call where
  | page (name : String)
  | node (parent : NodeId) (kind : NodeKind) (name : String)
  | variant (set : NodeId) (values : List (String × String))
  | text (parent : NodeId) (name characters : String)
  | instanceOf (parent : NodeId) (name : String) (main : NodeId)
  | vector (parent : NodeId) (name svg : String)
  | defineProperty (component : NodeId) (key : String) (kind : PropertyType) (default : PropertyValue)
  | bind (id : NodeId) (references : PropertyReferences)
  | setInstanceProperty (id : NodeId) (key : String) (property : InstanceProperty)
  | fill (id : NodeId) (color : Color)
  | collection (name : String) (modes : List String)
  | colorVariable (collectionId : NodeId) (name : String) (values : List VariableValue)
  | paintStyle (name : String) (color : Color)
  | select (id : NodeId)
  | edit (id : NodeId) (f : Node → Node) (keeps : ∀ n, (f n).outline = n.outline)

/-- The builder after a call. -/
def perform (b : Builder) : Call → Builder
  | .page name => (b.page name).1
  | .node parent kind name => (b.node parent kind name).1
  | .variant set values => (b.variant set values).1
  | .text parent name characters => (b.text parent name characters).1
  | .instanceOf parent name main => (b.instanceOf parent name main).1
  | .vector parent name svg => (b.vector parent name svg).1
  | .defineProperty component key kind default => (b.defineProperty component key kind default).1
  | .bind id references => (b.bind id references).1
  | .setInstanceProperty id key property => (b.setInstanceProperty id key property).1
  | .fill id color => (b.fill id color).1
  | .collection name modes => (b.collection name modes).1
  | .colorVariable collectionId name values => (b.colorVariable collectionId name values).1
  | .paintStyle name color => b.paintStyle name color
  | .select id => b.select id
  | .edit id f _ => (b.edit id f).1

/-- The builder after calls. -/
def performAll (b : Builder) (calls : List Call) : Builder := calls.foldl perform b

variable {b : Builder}

private theorem nested_push (nested : b.document.Nested) (parent : Option NodeId)
    (make : NodeId → Node) (childless : ∀ id, (make id).children = []) :
    (b.push parent make).1.document.Nested := by
  unfold push
  dsimp only
  split
  · next document h => exact nested.addNode (childless _) h
  · exact nested

private theorem nested_edit (nested : b.document.Nested) {id : NodeId} {f : Node → Node}
    (keeps : ∀ n, (f n).outline = n.outline) : (b.edit id f).1.document.Nested := by
  unfold edit
  split
  · exact nested.modifyNode keeps
  · exact nested

private theorem nested_variant (nested : b.document.Nested) (set : NodeId)
    (values : List (String × String)) : (b.variant set values).1.document.Nested := by
  have pushed := nested_push nested (some set) (fun id =>
    { id, name := VariantKey.ofAssignments values, kind := .component,
      variantProperties := OrderedMap.ofList values }) fun _ => rfl
  unfold variant nodeWith
  dsimp only
  split
  · next after id heq =>
    rw [heq] at pushed
    dsimp only at pushed ⊢
    apply pushed.modifyNode
    exact fun _ => rfl
  · next after err heq =>
    rw [heq] at pushed
    exact pushed

/-- Every call keeps the document of a builder nested, whether it is refused or not. -/
theorem nested_perform (nested : b.document.Nested) (call : Call) :
    (b.perform call).document.Nested := by
  cases call with
  | page name => exact nested_push nested _ _ fun _ => rfl
  | node parent kind name => exact nested_push nested _ _ fun _ => rfl
  | variant set values => exact nested_variant nested set values
  | text parent name characters => exact nested_push nested _ _ fun _ => rfl
  | instanceOf parent name main => exact nested_push nested _ _ fun _ => rfl
  | vector parent name svg => exact nested_push nested _ _ fun _ => rfl
  | defineProperty component key kind default => exact nested_edit nested fun _ => rfl
  | bind id references => exact nested_edit nested fun _ => rfl
  | setInstanceProperty id key property => exact nested_edit nested fun _ => rfl
  | fill id color => exact nested_edit nested fun _ => rfl
  | collection name modes => exact nested.of_outline rfl
  | colorVariable collectionId name values =>
    unfold perform colorVariable
    dsimp only
    split
    · exact nested
    · exact nested.of_outline rfl
  | paintStyle name color => exact nested.of_outline rfl
  | select id => exact nested.of_outline rfl
  | edit id f keeps => exact nested_edit nested keeps

/-- Every run of calls keeps the document of a builder nested. -/
theorem nested_performAll (nested : b.document.Nested) (calls : List Call) :
    (b.performAll calls).document.Nested := by
  induction calls generalizing b with
  | nil => exact nested
  | cons call rest ih => exact ih (nested_perform nested call)

end Builder

/-! ## The invariant -/

namespace Document

/-- The store keeps its documents sound. A snapshot is read exactly if its ids are distinct and its
children exist, and then the document is sound. On a sound document without cycles, runs of operations
and of builder calls leave a sound document without cycles, a single edit that fails changes nothing, and
a removal, which succeeds for every node, takes exactly the node and what lies below it. -/
theorem store_sound :
    (∀ source, (∃ d, parse source = .ok d) ↔ ∃ j raw nodes, Json.parse? source = some j ∧
      content? j = some (raw, nodes) ∧ (nodes.map (·.id)).Nodup ∧
      ∀ n ∈ nodes, ∀ c ∈ n.children, c ∈ nodes.map (·.id)) ∧
    (∀ source d, parse source = .ok d → d.Sound) ∧
    ∀ d : Document, d.Sound → d.Acyclic →
      (∀ operations : List Operation, (∀ operation ∈ operations, operation.Admissible) →
        (d.performAll operations).Sound ∧ (d.performAll operations).Acyclic) ∧
      (∀ (operation : Operation) (err : CompileError), operation.IsSingle →
        (d.perform operation).2 = .error err → (d.perform operation).1 = d) ∧
      (∀ id, (∃ e, d.removeNode id = (e, .ok ())) ↔ d.contains id = true) ∧
      (∀ id e, d.removeNode id = (e, .ok ()) →
        ∃ gone, (∀ x, x ∈ gone ↔ Relation.ReflTransGen d.Lists id x) ∧ d.Loses e gone) ∧
      ∀ (used : Nat) (calls : List Builder.Call),
        (Builder.performAll ⟨d, used⟩ calls).document.Sound ∧
          (Builder.performAll ⟨d, used⟩ calls).document.Acyclic := by
  refine ⟨fun source => ?_, fun source d h => sound_of_parse h, fun d sound acyclic => ?_⟩
  · constructor
    · rintro ⟨d, h⟩
      obtain ⟨j, raw, hj, content, linked⟩ := parse_eq_ok_iff.1 h
      obtain ⟨linkable, -⟩ := ofNodes?_eq_ok_iff.1 linked
      exact ⟨j, raw, d.nodes, hj, content, linkable.distinct, linkable.closed⟩
    · rintro ⟨j, raw, nodes, hj, content, distinct, closed⟩
      obtain ⟨d, linked⟩ : ∃ d, raw.ofNodes? nodes = .ok d :=
        ⟨_, ofNodes?_eq_ok_iff.2 ⟨⟨distinct, closed⟩, rfl⟩⟩
      exact ⟨d, by simp only [parse, ofJson, hj, content, linked]⟩
  · have nested : d.Nested := ⟨sound, acyclic⟩
    refine ⟨fun operations fresh => ?_, fun operation err single => nested.unchanged_of_error single,
      fun id => exists_removeNode_iff sound, fun id e => loses_of_removeNode sound,
      fun used calls => ?_⟩
    · have after := nested.performAll fresh
      exact ⟨after.sound, after.acyclic⟩
    · have after := Builder.nested_performAll (b := ⟨d, used⟩) nested calls
      exact ⟨after.sound, after.acyclic⟩

/-- A page with two frames that list the same leaf. -/
def sharedLeaf : Document :=
  filed [{ id := "p", name := "Page", kind := .page, children := ["a", "b"] },
    { id := "a", name := "First", kind := .frame, children := ["c"] },
    { id := "b", name := "Second", kind := .frame, children := ["c"] },
    { id := "c", name := "Leaf", kind := .vector }]

/-- The leaf goes with the second frame, which is its parent, and the first frame loses it. -/
theorem removeNode_sharedLeaf : ∃ e, sharedLeaf.removeNode "b" = (e, .ok ()) ∧ e.Sound ∧ e.Acyclic ∧
    e.nodes.map (fun n => (n.id, n.children)) = [("p", ["a"]), ("a", [])] := by
  have sound : sharedLeaf.Sound := sound_iff_linked.2 (by decide +kernel)
  have acyclic : sharedLeaf.Acyclic :=
    .of_rank sound (["c", "b", "a", "p"].idxOf ·) (by decide +kernel)
  obtain ⟨runs, -, succeeds, -⟩ := store_sound.2.2 sharedLeaf sound acyclic
  obtain ⟨e, removed⟩ := (succeeds "b").2 (by decide +kernel)
  obtain ⟨after, nested⟩ := runs [.removeNode "b"] (by simp [Operation.Admissible])
  have result : sharedLeaf.performAll [.removeNode "b"] = e := congrArg Prod.fst removed
  have left : (sharedLeaf.removeNode "b").1.nodes.map (fun n => (n.id, n.children)) =
      [("p", ["a"]), ("a", [])] := by decide +kernel
  rw [result] at after nested
  rw [removed] at left
  exact ⟨e, removed, after, nested, left⟩

end Document
end Handoff
