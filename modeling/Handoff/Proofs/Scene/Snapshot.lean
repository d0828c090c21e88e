import Handoff.Proofs.Scene.Difference
import Handoff.Proofs.Scene.Records
import Handoff.Proofs.Scene.Tree

/-!
# Snapshots read back

A document that was read is read again from the text that it is saved as: field by field, since a field
is left out exactly if it has its default, and then linked to the same keys and parents.
-/

namespace Handoff

/-- A written node is read as that node. -/
theorem Node.ofJson?_toJson (n : Node) : ofJson? n.toJson = some n := by
  have fields : n.toJson.fields? fieldNames = some n.members :=
    Json.fields?_object n.map_fst_members (by decide)
  have id : Json.Fields.required n.members "id" Json.string? = some n.id :=
    Json.required_of_written (.string n.id) (by unfold members; simp) rfl
  have name : Json.Fields.required n.members "name" Json.string? = some n.name :=
    Json.required_of_written (.string n.name) (by unfold members; simp) rfl
  have kind : Json.Fields.required n.members "type" (fun j => j.token?.map NodeKind.ofToken) =
      some n.kind :=
    Json.required_of_written (.string n.kind.token) (by unfold members; simp)
      (congrArg some (NodeKind.ofToken_token n.kind))
  have children : Json.Fields.withDefault n.members "children" [] (Json.list? Json.string?) =
      some n.children :=
    Json.withDefault_of_lookup (.ofStrings n.children) (by unfold members; simp) (Json.list?_ofStrings _)
  have visible : Json.Fields.withDefault n.members "visible" true Json.bool? = some n.visible :=
    Json.withDefault_of_written (.bool n.visible) (by unfold members; simp) rfl
  have width : Json.Fields.withDefault n.members "width" .zero Json.number? = some n.width :=
    Json.withDefault_of_written (.number n.width) (by unfold members; simp) rfl
  have height : Json.Fields.withDefault n.members "height" .zero Json.number? = some n.height :=
    Json.withDefault_of_written (.number n.height) (by unfold members; simp) rfl
  have description : Json.Fields.withDefault n.members "description" "" Json.string? =
      some n.description :=
    Json.withDefault_of_lookup (.string n.description) (by unfold members; simp) rfl
  have documentationLinks :
      Json.Fields.withDefault n.members "documentationLinks" [] (Json.list? Json.string?) =
        some n.documentationLinks :=
    Json.withDefault_of_lookup (.ofStrings n.documentationLinks) (by unfold members; simp)
      (Json.list?_ofStrings _)
  have layout : Json.Fields.optional n.members "layout" AutoLayout.ofJson? = some n.layout :=
    Json.optional_of_lookup AutoLayout.toJson (by unfold members; simp) AutoLayout.ofJson?_toJson
      fun _ => nofun
  have sizing : Json.Fields.withDefault n.members "sizing" {} Sizing.ofJson? = some n.sizing :=
    Json.withDefault_of_lookup n.sizing.toJson (by unfold members; simp) n.sizing.ofJson?_toJson
  have fills : Json.Fields.withDefault n.members "fills" [] (Json.list? Paint.ofJson?) =
      some n.fills :=
    Json.withDefault_of_lookup (.array (n.fills.map Paint.toJson)) (by unfold members; simp)
      (Json.list?_array Paint.ofJson?_toJson _)
  have strokes : Json.Fields.withDefault n.members "strokes" [] (Json.list? Paint.ofJson?) =
      some n.strokes :=
    Json.withDefault_of_lookup (.array (n.strokes.map Paint.toJson)) (by unfold members; simp)
      (Json.list?_array Paint.ofJson?_toJson _)
  have strokeWeight : Json.Fields.withDefault n.members "strokeWeight" .zero Json.number? =
      some n.strokeWeight :=
    Json.withDefault_of_written (.number n.strokeWeight) (by unfold members; simp) rfl
  have cornerRadius : Json.Fields.withDefault n.members "cornerRadius" .zero Json.number? =
      some n.cornerRadius :=
    Json.withDefault_of_written (.number n.cornerRadius) (by unfold members; simp) rfl
  have opacity : Json.Fields.withDefault n.members "opacity" .one Json.number? = some n.opacity :=
    Json.withDefault_of_written (.number n.opacity) (by unfold members; simp) rfl
  have text : Json.Fields.optional n.members "text" TextStyle.ofJson? = some n.text :=
    Json.optional_of_lookup TextStyle.toJson (by unfold members; simp) TextStyle.ofJson?_toJson
      fun _ => nofun
  have propertyDefinitions : Json.Fields.withDefault n.members "propertyDefinitions" .empty
      (Json.orderedMap? PropertyDefinition.ofJson?) = some n.propertyDefinitions :=
    Json.withDefault_of_lookup (.ofOrderedMap n.propertyDefinitions PropertyDefinition.toJson)
      (by unfold members; simp) (Json.orderedMap?_ofOrderedMap PropertyDefinition.ofJson?_toJson _)
  have propertyReferences :
      Json.Fields.withDefault n.members "propertyReferences" {} PropertyReferences.ofJson? =
        some n.propertyReferences :=
    Json.withDefault_of_lookup n.propertyReferences.toJson (by unfold members; simp)
      n.propertyReferences.ofJson?_toJson
  have componentProperties : Json.Fields.withDefault n.members "componentProperties" .empty
      (Json.orderedMap? InstanceProperty.ofJson?) = some n.componentProperties :=
    Json.withDefault_of_lookup (.ofOrderedMap n.componentProperties InstanceProperty.toJson)
      (by unfold members; simp) (Json.orderedMap?_ofOrderedMap InstanceProperty.ofJson?_toJson _)
  have readString (s : String) : Json.string? (.string s) = some s := rfl
  have variantProperties : Json.Fields.withDefault n.members "variantProperties" .empty
      (Json.orderedMap? Json.string?) = some n.variantProperties :=
    Json.withDefault_of_lookup (.ofOrderedMap n.variantProperties .string) (by unfold members; simp)
      (Json.orderedMap?_ofOrderedMap readString _)
  have mainComponent : Json.Fields.optional n.members "mainComponent" Json.string? =
      some n.mainComponent :=
    Json.optional_of_lookup .string (by unfold members; simp) readString fun _ => nofun
  have reactions : Json.Fields.withDefault n.members "reactions" [] (Json.list? Reaction.ofJson?) =
      some n.reactions :=
    Json.withDefault_of_lookup (.array (n.reactions.map Reaction.toJson)) (by unfold members; simp)
      (Json.list?_array Reaction.ofJson?_toJson _)
  have exported : Json.Fields.optional n.members "export" ExportedAsset.ofJson? = some n.exported :=
    Json.optional_of_lookup ExportedAsset.toJson (by unfold members; simp) ExportedAsset.ofJson?_toJson
      fun _ => nofun
  have readGroup (group : SortedMap String) :
      Json.sortedMap? Json.string? (.ofSortedMap group .string) = some group :=
    Json.sortedMap?_ofSortedMap readString group
  have pluginData : Json.Fields.withDefault n.members "pluginData" .empty
      (Json.sortedMap? (Json.sortedMap? Json.string?)) = some n.pluginData :=
    Json.withDefault_of_lookup (.ofSortedMap n.pluginData fun group => .ofSortedMap group .string)
      (by unfold members; simp) (Json.sortedMap?_ofSortedMap readGroup _)
  unfold ofJson?
  exact Json.reads_bind fields <| Json.reads_bind id <| Json.reads_bind name <| Json.reads_bind kind <|
    Json.reads_bind children <| Json.reads_bind visible <| Json.reads_bind width <|
    Json.reads_bind height <| Json.reads_bind description <| Json.reads_bind documentationLinks <|
    Json.reads_bind layout <| Json.reads_bind sizing <| Json.reads_bind fills <|
    Json.reads_bind strokes <| Json.reads_bind strokeWeight <| Json.reads_bind cornerRadius <|
    Json.reads_bind opacity <| Json.reads_bind text <| Json.reads_bind propertyDefinitions <|
    Json.reads_bind propertyReferences <| Json.reads_bind componentProperties <|
    Json.reads_bind variantProperties <| Json.reads_bind mainComponent <|
    Json.reads_bind reactions <| Json.reads_bind exported <| Json.reads_bind pluginData rfl

/-- A node is written plainly. -/
theorem Node.plain_toJson {levels : Nat} (n : Node) : Json.Plain (levels + 4) n.toJson := by
  have fills : Json.Plain (levels + 3) (.array (n.fills.map Paint.toJson)) :=
    Json.plain_array Paint.plain_toJson n.fills
  have strokes : Json.Plain (levels + 3) (.array (n.strokes.map Paint.toJson)) :=
    Json.plain_array Paint.plain_toJson n.strokes
  have definitions :
      Json.Plain (levels + 3) (.ofOrderedMap n.propertyDefinitions PropertyDefinition.toJson) :=
    Json.plain_ofOrderedMap PropertyDefinition.plain_toJson n.propertyDefinitions
  have properties :
      Json.Plain (levels + 3) (.ofOrderedMap n.componentProperties InstanceProperty.toJson) :=
    Json.plain_ofOrderedMap InstanceProperty.plain_toJson n.componentProperties
  have variants : Json.Plain (levels + 3) (.ofOrderedMap n.variantProperties .string) :=
    Json.plain_ofOrderedMap Json.plain_string n.variantProperties
  have reactions : Json.Plain (levels + 3) (.array (n.reactions.map Reaction.toJson)) :=
    Json.plain_array Reaction.plain_toJson n.reactions
  have pluginData : Json.Plain (levels + 3)
      (.ofSortedMap n.pluginData fun group => .ofSortedMap group .string) :=
    Json.plain_ofSortedMap (Json.plain_ofSortedMap Json.plain_string) n.pluginData
  unfold toJson members
  simp only [Json.plain_object_iff, List.forall_mem_append, List.forall_mem_cons,
    Json.forall_mem_memberIf, Json.forall_mem_memberOf]
  simp [fills, strokes, definitions, properties, variants, reactions, pluginData]

/-- There are no numbers in the plugin data of a node. -/
theorem Node.numbers_toJson_bare (n : Node) : n.bare.toJson.numbers = n.toJson.numbers := by
  have group (g : SortedMap String) : (Json.ofSortedMap g .string).numbers = [] := by
    rw [Json.numbers_ofSortedMap, List.flatMap_eq_nil_iff]
    exact fun _ _ => rfl
  have data (present : Bool) : (Json.memberIf present "pluginData"
      (.ofSortedMap n.pluginData fun g => .ofSortedMap g .string)).flatMap (fun m => m.2.numbers) = [] := by
    cases present with
    | false => rfl
    | true =>
      rw [Json.memberIf, if_pos rfl, List.flatMap_singleton, Json.numbers_ofSortedMap,
        List.flatMap_eq_nil_iff]
      exact fun e _ => group e.2
  rw [toJson, toJson, Json.numbers_object, Json.numbers_object, members_eq n, List.flatMap_append, data,
    List.append_nil]

namespace Document

/-- What a snapshot says is read from what the document is written as. -/
theorem content?_toJson (d : Document) :
    content? d.toJson = some ({ d with placements := [] }, d.nodes) := by
  have readString (s : String) : Json.string? (.string s) = some s := rfl
  show (Json.list? Node.ofJson? (.array (d.nodes.map Node.toJson))).bind (fun nodes =>
    (Json.list? VariableCollection.ofJson?
        (.array (d.collections.map VariableCollection.toJson))).bind fun collections =>
      (Json.list? Variable.ofJson? (.array (d.localVariables.map Variable.toJson))).bind
        fun localVariables =>
          (Json.list? PaintStyle.ofJson? (.array (d.paintStyles.map PaintStyle.toJson))).bind
            fun paintStyles =>
              (Json.list? Json.string? (.ofStrings d.selection)).bind fun selection =>
                some (({ name := d.name, collections, localVariables, paintStyles, selection } :
                  Document), nodes)) = _
  rw [Json.list?_array Node.ofJson?_toJson, Json.list?_array VariableCollection.ofJson?_toJson,
    Json.list?_array Variable.ofJson?_toJson, Json.list?_array PaintStyle.ofJson?_toJson,
    Json.list?_ofStrings]
  rfl

/-- A document is written plainly. -/
theorem plain_toJson (d : Document) : Json.Plain Json.levelLimit d.toJson := by
  have nodes : Json.Plain 126 (.array (d.nodes.map Node.toJson)) :=
    Json.plain_array Node.plain_toJson d.nodes
  have collections : Json.Plain 126 (.array (d.collections.map VariableCollection.toJson)) :=
    Json.plain_array VariableCollection.plain_toJson d.collections
  have localVariables : Json.Plain 126 (.array (d.localVariables.map Variable.toJson)) :=
    Json.plain_array Variable.plain_toJson d.localVariables
  have paintStyles : Json.Plain 126 (.array (d.paintStyles.map PaintStyle.toJson)) :=
    Json.plain_array PaintStyle.plain_toJson d.paintStyles
  show Json.Plain (126 + 1) d.toJson
  simp [toJson, nodes, collections, localVariables, paintStyles]

/-- Whether every number in the snapshot of a document is read from what is printed for it. -/
def NumbersReadBack (d : Document) : Prop := ∀ x ∈ d.toJson.numbers, x.ReadsBack

instance (d : Document) : Decidable d.NumbersReadBack :=
  inferInstanceAs (Decidable (∀ x ∈ d.toJson.numbers, x.ReadsBack))

/-- There are no numbers in the plugin data of a document. -/
theorem numbers_toJson_bare (d : Document) : d.bare.toJson.numbers = d.toJson.numbers := by
  have nodes : d.bare.nodes.map Node.toJson = d.nodes.map fun n => n.bare.toJson := by
    rw [bare, nodes_mapNodes, List.map_map]
    rfl
  simp only [toJson, Json.numbers_object, List.flatMap_cons, Json.numbers_array, nodes, List.flatMap_map,
    Node.numbers_toJson_bare]
  rfl

/-- Whether the numbers in a snapshot are read back does not depend on plugin data. -/
theorem NumbersReadBack.of_bare_eq {d e : Document} (numbers : d.NumbersReadBack)
    (h : e.bare = d.bare) : e.NumbersReadBack := by
  rw [NumbersReadBack, ← numbers_toJson_bare, h, numbers_toJson_bare]
  exact numbers

/-- The snapshot of a linked document is read as that document. -/
theorem parse_print {d : Document} (linked : d.ofNodes? d.nodes = .ok d) (numbers : d.NumbersReadBack) :
    parse d.print = .ok d := by
  have text : Json.parse? d.print = some d.toJson :=
    Json.parse?_indented_of_plain d.plain_toJson numbers
  simp only [parse, text, ofJson, content?_toJson]
  exact linked

/-- A document that was read is read again from the text that it is saved as, and saving it again gives
the same text. -/
theorem parse_print_of_parse {source : String} {d : Document} (h : parse source = .ok d)
    (numbers : d.NumbersReadBack) :
    parse d.print = .ok d ∧ (parse d.print).map print = .ok d.print := by
  have again := parse_print (linked_of_parse h) numbers
  exact ⟨again, by rw [again]; rfl⟩

/-- A snapshot with a node of an unknown kind, an unknown paint and a whole number. -/
def starSource : String :=
  "\x7b\"nodes\": [\x7b\"type\": \"STARBURST\", \"id\": \"s\", \"name\": \"Star\", \"width\": 24, " ++
    "\"fills\": [\x7b\"type\": \"NOISE\", \"grain\": 2\x7d]\x7d], \"name\": \"\"\x7d"

/-- The document of that snapshot. -/
def starDocument : Document :=
  filed [{ id := "s", name := "Star", kind := .unknown, fills := [.other]
           width := (Binary64.ofNat? 24).getD .zero }]

/-- The star survives saving, although it is saved as another text than the one that was read. -/
theorem parse_print_starDocument : starDocument.print ≠ starSource ∧
    parse starDocument.print = .ok starDocument ∧
      (parse starDocument.print).map print = .ok starDocument.print := by
  have read : parse starSource = .ok starDocument := by decide +kernel
  exact ⟨by decide +kernel, parse_print_of_parse read (by decide +kernel)⟩

end Document
end Handoff
