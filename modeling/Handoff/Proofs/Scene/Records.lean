import Handoff.Proofs.Json.Plain
import Handoff.Proofs.Json.Record
import Handoff.Scene.NodeJson
import Handoff.Scene.Variable

/-!
# Parts of documents read back

Every part of a document that has a record of its own is read from what it is written as, and is written
plainly. Tokens determine what they stand for; fields that are left out have their defaults.
-/

namespace Handoff

/-! ## Tokens -/

/-- A token determines its layout mode. -/
theorem LayoutMode.ofToken?_token (m : LayoutMode) : ofToken? m.token = some m := by
  cases m <;> decide

/-- A token determines its alignment. -/
theorem AxisAlign.ofToken?_token (a : AxisAlign) : ofToken? a.token = some a := by
  cases a <;> decide

/-- A token determines its sizing mode. -/
theorem SizingMode.ofToken?_token (m : SizingMode) : ofToken? m.token = some m := by
  cases m <;> decide

/-- A token determines its alignment of lines. -/
theorem TextAlign.ofToken?_token (a : TextAlign) : ofToken? a.token = some a := by
  cases a <;> decide

/-- A token determines its type of variables. -/
theorem VariableType.ofToken?_token (t : VariableType) : ofToken? t.token = some t := by
  cases t <;> decide

/-- A token determines its format. -/
theorem AssetFormat.ofToken?_token (f : AssetFormat) : ofToken? f.token = some f := by
  cases f <;> decide

/-! ## Looks -/

/-- A written color is read as that color. -/
theorem Color.ofJson?_toJson (c : Color) : ofJson? c.toJson = some c := rfl

/-- A written paint is read as that paint. -/
theorem Paint.ofJson?_toJson (p : Paint) : ofJson? p.toJson = some p := by
  cases p with
  | solid color visible variableId => cases variableId <;> rfl
  | image hash => rfl
  | other => rfl

/-- A written layout is read as that layout. -/
theorem AutoLayout.ofJson?_toJson (l : AutoLayout) : ofJson? l.toJson = some l := by
  show (LayoutMode.ofToken? l.mode.token).bind (fun mode =>
    (AxisAlign.ofToken? l.primaryAxisAlign.token).bind fun primary =>
      (AxisAlign.ofToken? l.counterAxisAlign.token).bind fun counter =>
        some (⟨mode, l.itemSpacing, l.paddingTop, l.paddingRight, l.paddingBottom, l.paddingLeft,
          primary, counter⟩ : AutoLayout)) = some l
  rw [LayoutMode.ofToken?_token, AxisAlign.ofToken?_token, AxisAlign.ofToken?_token]
  rfl

/-- A written sizing is read as that sizing. -/
theorem Sizing.ofJson?_toJson (s : Sizing) : ofJson? s.toJson = some s := by
  show (SizingMode.ofToken? s.horizontal.token).bind (fun horizontal =>
    (SizingMode.ofToken? s.vertical.token).bind fun vertical =>
      some (⟨horizontal, vertical⟩ : Sizing)) = some s
  rw [SizingMode.ofToken?_token, SizingMode.ofToken?_token]
  rfl

/-- The members of a text style stand in declaration order, each at most once. -/
theorem TextStyle.map_fst_toJson (t : TextStyle) :
    (t.toJson.memberList.map Prod.fst).Sublist fieldNames := by
  simp only [toJson, Json.memberList, List.append_assoc, List.map_append, List.map_cons,
    List.map_nil, List.cons_append, List.nil_append]
  unfold fieldNames
  repeat first
    | apply List.Sublist.cons_cons
    | apply Json.sublist_memberOf
  exact List.Sublist.refl []

/-- A written text style is read as that text style. -/
theorem TextStyle.ofJson?_toJson (t : TextStyle) : ofJson? t.toJson = some t := by
  have fields : t.toJson.fields? fieldNames = some t.toJson.memberList :=
    Json.fields?_object t.map_fst_toJson (by decide)
  have characters : t.toJson.memberList.withDefault "characters" "" Json.string? = some t.characters :=
    Json.withDefault_of_written (.string t.characters) (by simp [toJson]) rfl
  have fontFamily : t.toJson.memberList.optional "fontFamily" Json.string? = some t.fontFamily :=
    Json.optional_of_lookup .string (by simp [toJson]) (fun _ => rfl) (fun _ => nofun)
  have fontWeight : t.toJson.memberList.optional "fontWeight" Json.number? = some t.fontWeight :=
    Json.optional_of_lookup .number (by simp [toJson]) (fun _ => rfl) (fun _ => nofun)
  have fontSize : t.toJson.memberList.optional "fontSize" Json.number? = some t.fontSize :=
    Json.optional_of_lookup .number (by simp [toJson]) (fun _ => rfl) (fun _ => nofun)
  have lineHeight : t.toJson.memberList.optional "lineHeight" Json.number? = some t.lineHeight :=
    Json.optional_of_lookup .number (by simp [toJson]) (fun _ => rfl) (fun _ => nofun)
  have letterSpacing :
      t.toJson.memberList.withDefault "letterSpacing" .zero Json.number? = some t.letterSpacing :=
    Json.withDefault_of_written (.number t.letterSpacing) (by simp [toJson]) rfl
  have textAlign : t.toJson.memberList.withDefault "textAlign" .left
      (fun j => j.token?.bind TextAlign.ofToken?) = some t.textAlign :=
    Json.withDefault_of_written (.string t.textAlign.token) (by simp [toJson])
      (TextAlign.ofToken?_token t.textAlign)
  simp only [ofJson?, Option.bind_eq_bind, fields, characters, fontFamily, fontWeight, fontSize,
    lineHeight, letterSpacing, textAlign, Option.bind_some]
  rfl

/-! ## Properties and reactions -/

/-- A written definition is read as that definition. -/
theorem PropertyDefinition.ofJson?_toJson (d : PropertyDefinition) : ofJson? d.toJson = some d := by
  obtain ⟨kind, default, options⟩ := d
  have type : PropertyType.ofJson? (.string kind.token) = some kind := PropertyType.ofToken?_token kind
  have value := PropertyValue.ofJson?_toJson default
  cases options with
  | nil =>
    show (PropertyType.ofJson? (.string kind.token)).bind (fun kind =>
      (PropertyValue.ofJson? default.toJson).bind fun value =>
        some (⟨kind, value, []⟩ : PropertyDefinition)) = _
    rw [type, value]
    rfl
  | cons option rest =>
    have list := Json.list?_ofStrings (option :: rest)
    show (PropertyType.ofJson? (.string kind.token)).bind (fun kind =>
      (PropertyValue.ofJson? default.toJson).bind fun value =>
        (Json.list? Json.string? (.ofStrings (option :: rest))).bind fun options =>
          some (⟨kind, value, options⟩ : PropertyDefinition)) = _
    rw [type, value, list]
    rfl

/-- Something is bound unless all references are absent. -/
@[simp] theorem PropertyReferences.isEmpty_eq_false_iff {r : PropertyReferences} :
    r.isEmpty = false ↔ r ≠ {} := by
  obtain ⟨visible, characters, mainComponent⟩ := r
  cases visible <;> cases characters <;> cases mainComponent <;> simp [isEmpty]

/-- Written references are read as those references. -/
theorem PropertyReferences.ofJson?_toJson (r : PropertyReferences) : ofJson? r.toJson = some r := by
  obtain ⟨visible, characters, mainComponent⟩ := r
  cases visible <;> cases characters <;> cases mainComponent <;> rfl

/-- A written instance property is read as that property. -/
theorem InstanceProperty.ofJson?_toJson (p : InstanceProperty) : ofJson? p.toJson = some p := by
  obtain ⟨kind, value, boundTo⟩ := p
  have type : PropertyType.ofJson? (.string kind.token) = some kind := PropertyType.ofToken?_token kind
  have read := PropertyValue.ofJson?_toJson value
  have both : ((PropertyType.ofJson? (.string kind.token)).bind fun kind =>
      (PropertyValue.ofJson? value.toJson).bind fun value =>
        some (⟨kind, value, boundTo⟩ : InstanceProperty)) = some ⟨kind, value, boundTo⟩ := by
    rw [type, read]
    rfl
  cases boundTo <;> exact both

/-- A written reaction is read as that reaction. -/
theorem Reaction.ofJson?_toJson (r : Reaction) : ofJson? r.toJson = some r := by
  obtain ⟨trigger, url⟩ := r
  cases url <;> rfl

/-- A written export is read as that export. -/
theorem ExportedAsset.ofJson?_toJson (e : ExportedAsset) : ofJson? e.toJson = some e := by
  show (AssetFormat.ofToken? e.format.token).bind (fun format =>
    some (⟨format, e.data⟩ : ExportedAsset)) = some e
  rw [AssetFormat.ofToken?_token]
  rfl

/-! ## Variables and styles -/

/-- A written mode is read as that mode. -/
theorem VariableMode.ofJson?_toJson (m : VariableMode) : ofJson? m.toJson = some m := rfl

/-- A written collection is read as that collection. -/
theorem VariableCollection.ofJson?_toJson (c : VariableCollection) : ofJson? c.toJson = some c := by
  show (Json.list? VariableMode.ofJson? (.array (c.modes.map VariableMode.toJson))).bind (fun modes =>
    (Json.list? Json.string? (.ofStrings c.variableIds)).bind fun variableIds =>
      some (⟨c.id, c.name, modes, c.defaultModeId, variableIds⟩ : VariableCollection)) = some c
  rw [Json.list?_array VariableMode.ofJson?_toJson, Json.list?_ofStrings]
  rfl

/-- A written value is read as that value. -/
theorem VariableValue.ofJson?_toJson (v : VariableValue) : ofJson? v.toJson = some v := by
  cases v <;> rfl

/-- A written variable is read as that variable. -/
theorem Variable.ofJson?_toJson (v : Variable) : ofJson? v.toJson = some v := by
  show (VariableType.ofToken? v.resolvedType.token).bind (fun type =>
    (Json.orderedMap? VariableValue.ofJson? (.ofOrderedMap v.valuesByMode VariableValue.toJson)).bind
      fun values => some (⟨v.id, v.name, v.description, type, values⟩ : Variable)) = some v
  rw [VariableType.ofToken?_token, Json.orderedMap?_ofOrderedMap VariableValue.ofJson?_toJson]
  rfl

/-- A written paint style is read as that style. -/
theorem PaintStyle.ofJson?_toJson (s : PaintStyle) : ofJson? s.toJson = some s := by
  show (Json.list? Paint.ofJson? (.array (s.paints.map Paint.toJson))).bind (fun paints =>
    some (⟨s.id, s.name, s.description, paints⟩ : PaintStyle)) = some s
  rw [Json.list?_array Paint.ofJson?_toJson]
  rfl

/-! ## Plain parts -/

section

variable {levels : Nat}

@[simp] theorem Color.plain_toJson (c : Color) : Json.Plain (levels + 1) c.toJson := by
  simp [toJson, members]

@[simp] theorem Paint.plain_toJson (p : Paint) : Json.Plain (levels + 2) p.toJson := by
  cases p <;> simp +contextual [toJson, Json.withTag]

@[simp] theorem AutoLayout.plain_toJson (l : AutoLayout) : Json.Plain (levels + 1) l.toJson := by
  simp [toJson]

@[simp] theorem Sizing.plain_toJson (s : Sizing) : Json.Plain (levels + 1) s.toJson := by
  simp [toJson]

@[simp] theorem TextStyle.plain_toJson (t : TextStyle) : Json.Plain (levels + 1) t.toJson := by
  simp +contextual [toJson, or_imp]

@[simp] theorem PropertyValue.plain_toJson (v : PropertyValue) : Json.Plain levels v.toJson := by
  cases v <;> simp [toJson]

@[simp] theorem PropertyDefinition.plain_toJson (d : PropertyDefinition) :
    Json.Plain (levels + 2) d.toJson := by
  simp +contextual [toJson]

@[simp] theorem PropertyReferences.plain_toJson (r : PropertyReferences) :
    Json.Plain (levels + 1) r.toJson := by
  simp +contextual [toJson, or_imp]

@[simp] theorem InstanceProperty.plain_toJson (p : InstanceProperty) :
    Json.Plain (levels + 1) p.toJson := by
  simp +contextual [toJson]

@[simp] theorem Reaction.plain_toJson (r : Reaction) : Json.Plain (levels + 1) r.toJson := by
  simp +contextual [toJson]

@[simp] theorem ExportedAsset.plain_toJson (e : ExportedAsset) : Json.Plain (levels + 1) e.toJson := by
  simp [toJson]

@[simp] theorem VariableCollection.plain_toJson (c : VariableCollection) :
    Json.Plain (levels + 3) c.toJson := by
  have modes : Json.Plain (levels + 2) (.array (c.modes.map VariableMode.toJson)) :=
    Json.plain_array (fun m => by simp [VariableMode.toJson]) c.modes
  simp [toJson, modes]

@[simp] theorem VariableValue.plain_toJson (v : VariableValue) : Json.Plain (levels + 1) v.toJson := by
  cases v <;> simp [toJson, Json.withTag, Color.members]

@[simp] theorem Variable.plain_toJson (v : Variable) : Json.Plain (levels + 3) v.toJson := by
  have values : Json.Plain (levels + 2) (.ofOrderedMap v.valuesByMode VariableValue.toJson) :=
    Json.plain_ofOrderedMap VariableValue.plain_toJson v.valuesByMode
  simp [toJson, values]

@[simp] theorem PaintStyle.plain_toJson (s : PaintStyle) : Json.Plain (levels + 4) s.toJson := by
  have paints : Json.Plain (levels + 3) (.array (s.paints.map Paint.toJson)) :=
    Json.plain_array Paint.plain_toJson s.paints
  simp [toJson, paints]

end

end Handoff
