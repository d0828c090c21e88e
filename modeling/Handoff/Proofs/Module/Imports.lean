import Handoff.Proofs.Module.Blocks
import Handoff.Proofs.Module.Rendering

/-!
# Imports match tags

The markup of a module is made of primitive tags, the tag around translated texts, the icon tag, and
components. The walk captures what each of these needs, so that every tag that a line of the module opens is bound
by another line; and it captures a primitive only where it writes the tag, so that no primitive is imported in vain.
-/

namespace Handoff

/-! ## Tags among the names -/

section

variable {t : Tag}

private theorem tag_mem_content {content : TextContent} :
    .tag t ∈ content.uses ↔ t = .translation ∧ ∃ characters, content = .literal characters true := by
  rcases content with name | ⟨characters, _ | _⟩ <;> simp [TextContent.uses]

private theorem tag_mem_attribute {value : AttributeValue} :
    .tag t ∈ value.uses ↔ ∃ name, value = .element name ∧ t = .component name := by
  cases value <;> simp [AttributeValue.uses]

namespace Markup

variable {own : Option StyleRef} {elements : List (Option String × Markup)}

theorem tag_mem_use {component : String} {attributes : List (String × AttributeValue)} :
    .tag t ∈ (use component attributes).uses ↔ t = .component component ∨
      ∃ key name, (key, AttributeValue.element name) ∈ attributes ∧ t = .component name := by
  simp [uses, List.mem_flatMap, tag_mem_attribute]

/-- The tags of a text element are its own and that around a text that is translated. -/
theorem tag_mem_text {tag : Primitive} {content : TextContent} : .tag t ∈ (text tag own content).uses ↔
    t = .primitive tag ∨ t = .translation ∧ ∃ characters, content = .literal characters true := by
  simp [uses, tag_mem_content]

theorem tag_mem_empty {tag : Primitive} : .tag t ∈ (empty tag own).uses ↔ t = .primitive tag := by
  simp [uses]

/-- The tags of a container are its own and those below. -/
theorem tag_mem_container {tag : Primitive} :
    .tag t ∈ (container tag own elements).uses ↔ t = .primitive tag ∨ .tag t ∈ usesAll elements := by
  simp [uses]

/-- The tags of elements are those of the first one and those of the others. -/
theorem tag_mem_usesAll {condition : Option String} {element : Markup} :
    .tag t ∈ usesAll ((condition, element) :: elements) ↔ .tag t ∈ element.uses ∨ .tag t ∈ usesAll elements := by
  simp [usesAll]

end Markup

/-- The tags in a module are the root tag and those of the elements below it. -/
theorem ComponentModule.tag_mem {m : ComponentModule} :
    .tag t ∈ m.uses ↔ t = .primitive m.rootTag ∨ .tag t ∈ Markup.usesAll m.body := by
  simp [uses, ClassList.uses]

end

/-! ## Written imports -/

/-- The source of an import. -/
def Import.source : Import → String
  | default _ source => source
  | named _ source => source

namespace Layout

/-- The line that imports names from a source. -/
def importing (s : Settings) (names : List String) (source : String) : Layout :=
  line ("import \x7b" ++ ", ".intercalate names ++ "\x7d from " ++ s.quoted source ++ ";")

/-- Whether a line imports something from a source. -/
def ImportsFrom (s : Settings) (source : String) (l : Layout) : Prop :=
  ∃ text, l = line text ∧ (" from " ++ s.quoted source ++ ";").toList <:+ text.toList

end Layout

/-- Imported names are written as the line that imports them. -/
theorem Import.line_text_named (s : Settings) (names : List String) (source : String) :
    Layout.line ((named names source).text s) = Layout.importing s names source := by
  show Layout.line ("import " ++ braced (", ".intercalate names) ++ " from " ++ s.quoted source ++ ";") = _
  have opening : "import \x7b" = "import " ++ "\x7b" := rfl
  have closing : "\x7d from " = "\x7d" ++ " from " := rfl
  simp only [Layout.importing, braced, opening, closing, String.append_assoc]

/-- An import of one component, with the default quotes. -/
example : (Import.named ["Button"] "./Button").text {} = "import \x7bButton\x7d from './Button';" := by
  decide +kernel

namespace ComponentModule

/-- Whether a module binds a tag where it is read: a primitive by an import from the library of primitives, the
translation tag and the icon tag by theirs, and a component by an import or as the function of the module. -/
def Binds (s : Settings) (m : ComponentModule) : Tag → Prop
  | .primitive p => ∃ names, Layout.importing s names "react-native" ∈ m.layouts s ∧ p.tag ∈ names
  | .translation => Layout.importing s ["Trans"] "@lingui/macro" ∈ m.layouts s
  | .icon => Layout.importing s [s.icons.component] s.icons.importPath ∈ m.layouts s
  | .component name => (name = m.name ∧ ∃ body, m.functionBody? s = some body) ∨
      Layout.importing s [name] ("./" ++ name) ∈ m.layouts s

/-- The imports of a module are lines of it. -/
theorem importing_mem_layouts {s : Settings} {m : ComponentModule} {names : List String} {source : String}
    (h : .named names source ∈ m.imports) : Layout.importing s names source ∈ m.layouts s := by
  rw [layouts, ← Import.line_text_named]
  simp only [List.mem_append]
  exact .inl (.inl (.inl (.inl (List.mem_map_of_mem (f := fun i : Import => Layout.line (i.text s)) h))))

end ComponentModule

/-! ## What captures hold of tags -/

/-- Whether a capture with an asset has the tag of images. -/
def Capture.Imaged (s : Capture) : Prop := s.assets.keys ≠ [] → .image ∈ s.primitives.elems

namespace Capture

variable {d : Document} {s s' : Capture}

/-- An asset is captured together with its tag. -/
theorem Step.imaged (h : Step d s s') (imaged : s.Imaged) : s'.Imaged := by
  have kept (assets : s'.assets = s.assets) : s'.Imaged := by
    intro some
    rw [assets] at some
    exact h.grows.primitives (imaged some)
  cases h with
  | links => exact kept rfl
  | primitive => exact kept rfl
  | style => exact kept (by unfold addStyle; split <;> rfl)
  | asset n =>
    unfold addAsset at kept ⊢
    split
    · exact fun _ => OrderedSet.mem_insert.2 (.inl rfl)
    · exact imaged
    · exact imaged
  | use step => cases step <;> exact kept rfl

/-- Assets are captured together with their tag. -/
theorem Reaches.imaged (h : Reaches d s s') (imaged : s.Imaged) : s'.Imaged := by
  induction h with
  | refl => exact imaged
  | tail _ step ih => exact step.imaged ih

end Capture

namespace Document

variable {d : Document} {s s' final : Capture} {n : Node} {m : Model} {translated : Bool}

/-- Whether a capture has what a tag needs. -/
def Covers (d : Document) (translated : Bool) (s : Capture) : Tag → Prop
  | .primitive p => p ∈ s.primitives.elems
  | .translation => translated = true ∧ .text ∈ s.primitives.elems
  | .icon => s.icons.elems ≠ []
  | .component name => d.Offers s name

/-- What an instance renders is covered. -/
theorem Captures.covers {u : InstanceUse} (h : d.Captures s u) :
    ∀ tag, .tag tag ∈ u.markup.uses → d.Covers translated s tag := by
  intro tag htag
  unfold InstanceUse.markup at htag
  split at htag
  · next name icon =>
    cases List.mem_singleton.1 htag
    exact List.ne_nil_of_mem (h.icon name icon)
  · next icon =>
    rcases Markup.tag_mem_use.1 htag with rfl | ⟨key, name, ha, rfl⟩
    · exact h.component icon
    · exact h.elements key name ha

private theorem mem_primitives_enter : (modelNode n).tag ∈ (d.enter s n).primitives.elems := by
  have styled : (d.enter s n).primitives = ((s.addLinks n).addPrimitive (modelNode n).tag).primitives := by
    unfold enter Capture.addStyle
    split <;> rfl
  rw [styled]
  exact OrderedSet.mem_insert.2 (.inl rfl)

private theorem covers_of_leaf {entry : Entry} (h : d.Leaf s n entry s') (grows : s'.Grows final)
    (assets : m.assets = final.assets) (imaged : final.Imaged) :
    ∀ tag, .tag tag ∈ (m.markup translated entry).uses → d.Covers translated final tag := by
  rcases h.rendered m translated with ⟨prop, hm, -⟩ | ⟨hm, -⟩ | ⟨u, hm, used⟩ | ⟨written, hm, kind, rfl⟩ <;>
    rw [hm] <;> intro tag htag
  · simp [Markup.uses] at htag
  · unfold Model.assetMarkup at htag
    split at htag
    · next found =>
      cases List.mem_singleton.1 htag
      rw [assets] at found
      exact imaged (List.ne_nil_of_mem (OrderedMap.mem_keys_of_get? found))
    · cases htag
  · exact ((captures_of_instanceUse used).mono grows).covers tag htag
  · have text : (modelNode n).tag = .text := by simp [modelNode, kind, Primitive.ofKind]
    have entered : .text ∈ final.primitives.elems :=
      grows.primitives (text ▸ mem_primitives_enter (d := d) (s := s))
    rcases Markup.tag_mem_text.1 htag with rfl | ⟨rfl, characters, content⟩
    · rw [text]
      exact entered
    · unfold ModelNode.content at content
      split at content
      · cases content
      · cases content
        exact ⟨rfl, entered⟩

/-- What the elements of walked nodes need as tags is captured in the end. -/
theorem covers_of_walked {nodes : List Node} {entries : List Entry} (h : d.Walked nodes s entries s')
    (grows : s'.Grows final) (assets : m.assets = final.assets) (imaged : final.Imaged) :
    ∀ tag, .tag tag ∈ Markup.usesAll (m.markupAll translated entries) → d.Covers translated final tag := by
  induction h with
  | done => rintro _ ⟨⟩
  | leaf first rest ih =>
    intro tag htag
    rw [Model.markupAll, Markup.tag_mem_usesAll] at htag
    rcases htag with htag | htag
    · exact covers_of_leaf first (rest.reaches.grows.trans grows) assets imaged tag htag
    · exact ih grows tag htag
  | @container n _ s s₁ s' below _ goes inside rest ihBelow ih =>
    have later : s₁.Grows final := rest.reaches.grows.trans grows
    have own : d.Covers translated final (.primitive (modelNode n).tag) :=
      later.primitives (inside.reaches.grows.primitives mem_primitives_enter)
    intro tag htag
    rw [Model.markupAll, Markup.tag_mem_usesAll, markup_container m translated goes] at htag
    rcases htag with htag | htag
    · split at htag
      · cases Markup.tag_mem_empty.1 htag
        exact own
      · rcases Markup.tag_mem_container.1 htag with rfl | htag
        · exact own
        · exact ihBelow later tag htag
    · exact ih grows tag htag

/-! ## Tags of captured primitives -/

private theorem mem_primitives_of_enter {p : Primitive} (h : p ∈ (d.enter s n).primitives.elems) :
    p = (modelNode n).tag ∨ p ∈ s.primitives.elems := by
  unfold enter Capture.addStyle at h
  split at h <;> exact OrderedSet.mem_insert.1 h

private theorem mem_primitives_of_addAsset {p : Primitive}
    (h : p ∈ (s.addAsset d n).primitives.elems) :
    p ∈ s.primitives.elems ∨ p = .image ∧ n.id ∈ (s.addAsset d n).assets.keys := by
  unfold Capture.addAsset at h ⊢
  split at h
  · rcases OrderedSet.mem_insert.1 h with rfl | h
    · exact .inr ⟨rfl, OrderedMap.mem_keys_insert.2 (.inl rfl)⟩
    · exact .inl h
  · exact .inl h
  · exact .inl h

private theorem tag_of_leaf {entry : Entry} (h : d.Leaf s n entry s')
    (assets : s'.assets.keys ⊆ m.assets.keys) {p : Primitive} (hp : p ∈ s'.primitives.elems) :
    p ∈ s.primitives.elems ∨ .tag (.primitive p) ∈ (m.markup translated entry).uses := by
  rcases h.rendered m translated with
    ⟨prop, -, rfl⟩ | ⟨hm, rfl⟩ | ⟨u, -, used⟩ | ⟨written, hm, -, rfl⟩
  · exact .inl hp
  · rcases mem_primitives_of_addAsset hp with hp | ⟨rfl, captured⟩
    · exact .inl hp
    · obtain ⟨asset, found⟩ := OrderedMap.exists_of_mem_keys (assets captured)
      have image : m.assets.get? (modelNode n).id = some asset := found
      rw [hm, Model.assetMarkup, image]
      exact .inr (List.mem_singleton_self _)
  · have same := (uses_instanceUse (d := d) (s.addLinks n) n).primitives
    rw [used] at same
    exact .inl (same ▸ hp)
  · rcases mem_primitives_of_enter hp with rfl | hp
    · rw [hm]
      exact .inr (Markup.tag_mem_text.2 (.inl rfl))
    · exact .inl hp

/-- A primitive that a walk captures is the tag of an element. -/
theorem tag_of_walked {nodes : List Node} {entries : List Entry} (h : d.Walked nodes s entries s')
    (assets : s'.assets.keys ⊆ m.assets.keys) {p : Primitive} (hp : p ∈ s'.primitives.elems) :
    p ∈ s.primitives.elems ∨
      .tag (.primitive p) ∈ Markup.usesAll (m.markupAll translated entries) := by
  induction h with
  | done => exact .inl hp
  | leaf first rest ih =>
    rw [Model.markupAll, Markup.tag_mem_usesAll]
    rcases ih assets hp with hp | hp
    · have captured := List.Subset.trans rest.reaches.grows.assets assets
      rcases tag_of_leaf first captured hp with hp | hp
      · exact .inl hp
      · exact .inr (.inl hp)
    · exact .inr (.inr hp)
  | @container n _ s s₁ s' below _ goes inside rest ihBelow ih =>
    -- What has been captured in the end came after the container, below it, by it, or before it.
    rw [Model.markupAll, Markup.tag_mem_usesAll, markup_container m translated goes]
    rcases ih assets hp with hp | hp
    · have captured := List.Subset.trans rest.reaches.grows.assets assets
      rcases ihBelow captured hp with hp | hp
      · rcases mem_primitives_of_enter hp with rfl | hp
        · refine .inr (.inl ?_)
          split
          · exact Markup.tag_mem_empty.2 rfl
          · exact Markup.tag_mem_container.2 (.inl rfl)
        · exact .inl hp
      · refine .inr (.inl ?_)
        split
        · next none =>
          rw [none] at hp
          cases hp
        · exact Markup.tag_mem_container.2 (.inr hp)
    · exact .inr (.inr hp)

end Document

/-! ## Imports -/

/-- Primitives have different tags, and none is that of the style sheet. -/
theorem nodup_primitives {others : List Primitive} (distinct : others.Nodup)
    (rest : .container ∉ others) :
    ("StyleSheet" :: Primitive.container.tag :: others.map (·.tag)).Nodup := by
  have injective {p q : Primitive} (h : p.tag = q.tag) : p = q := by
    rw [← Primitive.ofTag_tag p, h, Primitive.ofTag_tag]
  have sheet (p : Primitive) : p.tag ≠ "StyleSheet" := by cases p <;> decide
  refine List.nodup_cons.2 ⟨?_, List.nodup_cons.2 ⟨?_, distinct.map fun _ _ => injective⟩⟩
  · simp only [List.mem_cons, List.mem_map, not_or, not_exists, not_and]
    exact ⟨(sheet _).symm, fun p _ => sheet p⟩
  · rintro container
    obtain ⟨p, hp, same⟩ := List.mem_map.1 container
    exact rest (injective same ▸ hp)

/-- Only the imports of the framework and of the translation tag stand before that of the primitives in use. -/
theorem Model.exists_imports (m : Model) (settings : Settings) (owner : NodeId) :
    ∃ before after, m.imports settings owner = before ++ Import.primitives m.primitives :: after ∧
      ∀ i ∈ before, i = Import.framework ∨ i = Import.localText := by
  refine ⟨(if settings.react.addImport then [Import.framework] else [])
      ++ (if settings.react.addTranslate && m.primitives.contains .text then [Import.localText] else []), _,
    by rw [imports, List.append_assoc, List.append_assoc, List.append_assoc, List.singleton_append], fun i hi => ?_⟩
  rcases List.mem_append.1 hi with hi | hi
  · split at hi
    · exact .inl (List.mem_singleton.1 hi)
    · cases hi
  · split at hi
    · exact .inr (List.mem_singleton.1 hi)
    · cases hi

/-- The framework and the translation tag do not come from the library of primitives. -/
private theorem not_importsFrom (settings : Settings) {i : Import} (h : i = Import.framework ∨ i = Import.localText) :
    ¬ Layout.ImportsFrom settings "react-native" (.line (i.text settings)) := by
  have ends (q : Char) (h : q = '\'' ∨ q = '"') :
      ¬ (" from " ++ Text.quotedString q "react-native" ++ ";").toList <:+
          ("import React from " ++ Text.quotedString q "react" ++ ";").toList ∧
        ¬ (" from " ++ Text.quotedString q "react-native" ++ ";").toList <:+
          ("import " ++ braced "Trans" ++ " from " ++ Text.quotedString q "@lingui/macro" ++ ";").toList := by
    simp only [String.toList_append, Text.quotedString, String.toList_ofList]
    rcases h with rfl | rfl <;> decide +kernel
  have quote := Writer.quoteOf_cases settings.writer
  rintro ⟨text, same, suffix⟩
  cases same
  rcases h with rfl | rfl
  · exact (ends _ quote).1 suffix
  · exact (ends _ quote).2 suffix

/-- The first line of a module that imports from the library of primitives is that of the primitives in use. -/
theorem ComponentModule.exists_importing {settings : Settings} {m : Model} {owner : NodeId} {written : ComponentModule}
    (imports : written.imports = m.imports settings owner) :
    ∃ before after, written.layouts settings = before ++ Layout.importing settings
        ("StyleSheet" :: Primitive.container.tag :: (m.primitives.elems.filter (· ≠ .container)).map (·.tag))
        "react-native" :: after ∧
      ∀ l ∈ before, ¬ l.ImportsFrom settings "react-native" := by
  obtain ⟨before, after, split, others⟩ := m.exists_imports settings owner
  have lines : ∃ after, written.layouts settings =
      before.map (fun i => Layout.line (i.text settings)) ++
        Layout.line ((Import.primitives m.primitives).text settings) :: after := by
    rw [layouts, imports, split, List.map_append, List.map_cons]
    simp only [List.append_assoc, List.cons_append]
    exact ⟨_, rfl⟩
  obtain ⟨after, lines⟩ := lines
  refine ⟨before.map (fun i => Layout.line (i.text settings)), after, ?_, fun l hl => ?_⟩
  · rw [lines, Import.primitives, Import.line_text_named]
    rfl
  · obtain ⟨i, hi, rfl⟩ := List.mem_map.1 hl
    exact not_importsFrom settings (others i hi)

namespace ComponentModule

variable {d : Document} {settings : Settings} {id : NodeId} {selected : Option NodeId}
  {descriptor : Descriptor} {log : List LogRecord} {model : Model} {written : ComponentModule}
  {s : Capture}

/-- A tag whose needs are captured is bound, unless it is a component that is found under the described
id while the described target is found under another one. -/
private theorem binds_of_covers (described : d.describe id selected = .ok descriptor)
    (extracted : d.extract descriptor = (log, .ok model)) (holds : model.Holds s)
    (emitted : ofModel settings descriptor model = .ok written) {tag : Tag}
    (h : d.Covers settings.react.addTranslate s tag) :
    written.Binds settings tag ∨ d.compileTarget? id ≠ some descriptor.id ∧
      ∃ t, d.node? descriptor.id = some t ∧ tag = .component (Text.pascalIdentifier t.name) := by
  have importing {names : List String} {source : String}
      (listed : .named names source ∈ model.imports settings descriptor.id) :
      Layout.importing settings names source ∈ written.layouts settings := by
    apply importing_mem_layouts
    obtain ⟨_, -, rfl⟩ := exists_of_ofModel emitted
    exact listed
  cases tag with
  | primitive p =>
    obtain ⟨before, after, split, -⟩ := model.exists_imports settings descriptor.id
    refine .inl ⟨_, importing (split ▸ List.mem_append_right _ List.mem_cons_self), ?_⟩
    rw [holds.primitives]
    by_cases container : p = .container
    · rw [container]
      exact List.mem_cons_of_mem _ List.mem_cons_self
    · refine List.mem_append_right _ (List.mem_map_of_mem (List.mem_filter.2 ⟨h, ?_⟩))
      exact decide_eq_true container
  | translation =>
    have text : model.primitives.contains .text = true := by
      rw [holds.primitives]
      exact List.contains_iff_mem.2 h.2
    have listed : Import.localText ∈ model.imports settings descriptor.id := by
      simp [Model.imports, h.1, text]
    exact .inl (importing listed)
  | icon =>
    have some : model.icons.isEmpty = false := by
      rw [holds.icons, OrderedSet.isEmpty]
      exact Bool.eq_false_iff.2 fun none => h (List.isEmpty_iff.1 none)
    have listed : Import.named [settings.icons.component] settings.icons.importPath ∈
        model.imports settings descriptor.id := by
      simp [Model.imports, some]
    exact .inl (importing listed)
  | component name =>
    have named := Document.exists_targetName?_of_extract extracted
    rw [holds.components] at named
    obtain ⟨target, entry⟩ := Document.Offers.mem_entries h named
    -- A module does not import itself, so its own component has to be the one that it declares.
    by_cases self : target = descriptor.id
    · obtain ⟨_, found⟩ := named _ entry
      obtain ⟨-, t, ht, rfl⟩ := Document.targetName?_eq_some_iff.1 found
      rw [self] at ht
      by_cases own : d.compileTarget? id = some descriptor.id
      · obtain ⟨target', t', htarget, ht', -, name⟩ := Document.target_of_describe described
        rw [own] at htarget
        cases htarget
        rw [ht'] at ht
        cases ht
        have called : written.name = descriptor.name := by
          obtain ⟨_, -, rfl⟩ := exists_of_ofModel emitted
          rfl
        exact .inl (.inl ⟨(called.trans name).symm, _, functionBody?_eq⟩)
      · exact .inr ⟨own, t, ht, rfl⟩
    · have imported : Import.component name ∈
          (model.components.entries.filter (·.1 ≠ descriptor.id)).map (Import.component ·.2) := by
        rw [holds.components]
        exact List.mem_map.2 ⟨_, List.mem_filter.2 ⟨entry, decide_eq_true self⟩, rfl⟩
      have listed : Import.component name ∈ model.imports settings descriptor.id :=
        List.mem_append_left _ (List.mem_append_right _ imported)
      exact .inl (.inr (importing listed))

/-- Imports match tags in the text of a module. Every tag that is opened is bound by the line that is meant for it,
or is the function of the module; only if the described target is not found under its own id, the component that is
found there may be used without being bound. The first line that imports from the library of primitives lists the
style sheet, the container, and exactly the other primitives whose tags are opened, each once. -/
theorem imports_match_tags (described : d.describe id selected = .ok descriptor)
    (ends : d.WalkEnds model.root.id) (extracted : d.extract descriptor = (log, .ok model))
    (emitted : ofModel settings descriptor model = .ok written) :
    written.Spells settings (written.text settings) ∧
    (∀ tag, .tag tag ∈ Piece.names (written.pieces settings) → written.Binds settings tag ∨
      d.compileTarget? id ≠ some descriptor.id ∧
        ∃ t, d.node? descriptor.id = some t ∧ tag = .component (Text.pascalIdentifier t.name)) ∧
      ∃ others : List Primitive,
        let names := "StyleSheet" :: Primitive.container.tag :: others.map (·.tag)
        (∃ before after, written.layouts settings =
            before ++ Layout.importing settings names "react-native" :: after ∧
          ∀ l ∈ before, ¬ l.ImportsFrom settings "react-native") ∧
        names.Nodup ∧
        ∀ p, p ∈ others ↔ p ≠ .container ∧ .tag (.primitive p) ∈ Piece.names (written.pieces settings) := by
  obtain ⟨_, s, -, holds, walked⟩ := Document.walked_of_extract extracted ends
  have imaged : s.Imaged := walked.reaches.imaged fun some => absurd rfl some
  have start (shown : Node) : (d.startCapture shown).primitives.elems = [.container] := rfl
  have binds {tag : Tag} (h : d.Covers settings.react.addTranslate s tag) :=
    binds_of_covers described extracted holds emitted h
  have root : model.root.tag = .container := by
    obtain ⟨_, _, -, -, shown, -⟩ := Document.exists_walk_of_extract extracted
    rw [shown]
  have rootCovered : d.Covers settings.react.addTranslate s (.primitive model.root.tag) := by
    rw [root]
    exact walked.reaches.grows.primitives (start _ ▸ List.mem_singleton_self _)
  rw [names_pieces]
  obtain ⟨_, -, rfl⟩ := exists_of_ofModel emitted
  simp only [tag_mem]
  refine ⟨spells_text settings _, ?_, ?_⟩
  · rintro tag (rfl | htag)
    · exact binds rootCovered
    · exact binds (Document.covers_of_walked walked (Capture.Grows.refl s) holds.assets imaged tag htag)
  · refine ⟨model.primitives.elems.filter (· ≠ .container), ?_,
      nodup_primitives (model.primitives.nodup.filter _) (by simp), fun p => ?_⟩
    · exact exists_importing rfl
    simp only [List.mem_filter, decide_eq_true_eq]
    constructor
    · rintro ⟨captured, other⟩
      refine ⟨other, .inr ?_⟩
      have assets : s.assets.keys ⊆ model.assets.keys := by
        rw [holds.assets]
        exact List.Subset.refl _
      rcases Document.tag_of_walked walked assets (holds.primitives ▸ captured) with before | written
      · exact absurd (List.mem_singleton.1 (start _ ▸ before)) other
      · exact written
    · rintro ⟨other, written⟩
      refine ⟨?_, other⟩
      rw [holds.primitives]
      rcases written with same | written
      · cases same
        exact absurd root other
      · exact Document.covers_of_walked walked (Capture.Grows.refl s) holds.assets imaged _ written

end ComponentModule

/-! ## A card with every kind of tag -/

namespace Document

/-- A card that holds a title, a photo, a shade that was not exported, a button with a mark, a smaller card
and a star. -/
def filledCard : Document :=
  filed
    [{ id := "p", name := "Page", kind := .page, children := ["a", "b", "m", "s"] },
      { id := "a", name := "Card", kind := .component, children := ["t", "v", "w", "i", "r", "x"] },
      { id := "t", name := "Title", kind := .text },
      { id := "v", name := "Photo", kind := .vector, exported := some ⟨.svg, "<svg/>"⟩ },
      { id := "w", name := "Shade", kind := .vector },
      { id := "i", name := "Action", kind := .componentInstance, mainComponent := some "b"
        componentProperties := .ofList [("Icon", ⟨.instanceSwap, .text "m", none⟩)] },
      { id := "r", name := "Inner", kind := .componentInstance, mainComponent := some "a" },
      { id := "x", name := "Star", kind := .componentInstance, mainComponent := some "s" },
      { id := "b", name := "Button", kind := .component },
      { id := "m", name := "Mark", kind := .component },
      { id := "s", name := "ph:star", kind := .component }]

/-- Settings under which texts are translated. -/
def translating : Settings := { react := { addTranslate := true } }

/-- In the module of the filled card every tag that is opened is bound, and the tags of texts and images are imported
as they are opened. -/
theorem imports_match_tags_filledCard :
    ∃ descriptor log model written, filledCard.describe "a" none = .ok descriptor ∧
      filledCard.WalkEnds model.root.id ∧ filledCard.extract descriptor = (log, .ok model) ∧
      ComponentModule.ofModel translating descriptor model = .ok written ∧
      (∀ tag ∈ [.primitive .view, .primitive .text, .translation, .primitive .image, .component "Button",
          .component "Mark", .component "Card", .icon], written.Binds translating tag) ∧
      ∃ others : List Primitive, (∃ before after, written.layouts translating = before ++
          Layout.importing translating ("StyleSheet" :: "View" :: others.map (·.tag)) "react-native" :: after) ∧
        ∀ p, p ∈ others ↔ p = .text ∨ p = .image := by
  have tree : filledCard.TreeShaped :=
    treeShaped_of_rank (by decide +kernel) (by decide +kernel)
      (["t", "v", "w", "i", "r", "x", "a", "b", "m", "s", "p"].idxOf ·) (by decide +kernel)
  have uses : (filledCard.module? translating "a" none).map (fun w => (w.1.id, w.2.uses)) =
      some ("a",
        [.tag (.primitive .view), .looks (.style "root"), .tag (.primitive .text), .looks (.style "title"),
          .tag .translation, .tag (.primitive .image), .tag (.component "Button"), .tag (.component "Mark"),
          .tag (.component "Card"), .tag .icon]) := by decide +kernel
  obtain ⟨⟨descriptor, written⟩, found, values⟩ := Option.map_eq_some_iff.1 uses
  obtain ⟨hid, uses⟩ : _ ∧ _ := by simpa only [Prod.mk.injEq] using values
  obtain ⟨described, log, model, extracted, emitted⟩ := module?_eq_some_iff.1 found
  have own : filledCard.compileTarget? "a" = some descriptor.id := by
    rw [hid]
    decide +kernel
  have ends := tree.walkEnds model.root.id
  obtain ⟨-, bound, others, ⟨before, after, lines, -⟩, -, exact⟩ :=
    ComponentModule.imports_match_tags described ends extracted emitted
  rw [ComponentModule.names_pieces, uses] at bound exact
  refine ⟨descriptor, log, model, written, described, ends, extracted, emitted, fun tag htag => ?_, others,
    ⟨before, after, lines⟩, fun p => ?_⟩
  · refine (bound tag ?_).resolve_right fun misfiled => misfiled.1 own
    revert tag
    decide
  · rw [exact]
    cases p <;> decide

/-- Cards whose nodes were overwritten by nodes with other ids: the node under `b` carries the id under
which another component is found, which holds an instance of itself. -/
def misfiledCards : Document :=
  { name := ""
    placements :=
      [⟨{ id := "b", name := "Foo", kind := .component }, some "a", none⟩,
        ⟨{ id := "c", name := "Bar", kind := .component }, some "b", none⟩,
        ⟨{ id := "c", name := "Baz", kind := .component, children := ["i"] }, some "c", none⟩,
        ⟨{ id := "i", name := "Inner", kind := .componentInstance, mainComponent := some "c" }, some "i",
          some "c"⟩] }

/-- Where a target is found under another id than its own, a tag need not be bound: the module `Bar` has
the markup of `Baz`, which uses itself. -/
theorem tag_not_bound :
    ¬ ∀ (d : Document) (settings : Settings) (id : NodeId) (selected : Option NodeId)
      (descriptor : Descriptor) (log : List LogRecord) (model : Model) (written : ComponentModule),
      d.describe id selected = .ok descriptor → d.extract descriptor = (log, .ok model) →
      ComponentModule.ofModel settings descriptor model = .ok written →
      ∀ tag, .tag tag ∈ Piece.names (written.pieces settings) → written.Binds settings tag := by
  intro bound
  have values : (misfiledCards.module? {} "a" none).map
      (fun w => (w.2.name, w.2.uses, w.2.imports, w.2.interface.isEmpty, w.2.documentation)) =
      some ("Bar", [.tag (.primitive .view), .looks (.style "root"), .tag (.component "Baz")],
        [.named ["StyleSheet", "View"] "react-native", Import.theme], true, none) := by decide +kernel
  obtain ⟨⟨descriptor, written⟩, found, values⟩ := Option.map_eq_some_iff.1 values
  obtain ⟨hname, uses, imports, interface, documentation⟩ : _ ∧ _ ∧ _ ∧ _ ∧ _ := by
    simpa only [Prod.mk.injEq] using values
  obtain ⟨described, log, model, extracted, emitted⟩ := module?_eq_some_iff.1 found
  have used : .tag (.component "Baz") ∈ Piece.names (written.pieces {}) := by
    rw [written.names_pieces, uses]
    decide
  rcases bound _ _ _ _ _ _ _ _ described extracted emitted _ used with ⟨own, -⟩ | imported
  · rw [hname] at own
    exact absurd own (by decide)
  · rw [ComponentModule.layouts, ComponentModule.interfaceLayouts, interface, documentation, imports] at imported
    have lines : "import \x7bBaz\x7d from " ++ Settings.quoted {} "./Baz" ++ ";" =
          Import.text {} (.named ["StyleSheet", "View"] "react-native") ∨
        "import \x7bBaz\x7d from " ++ Settings.quoted {} "./Baz" ++ ";" = Import.text {} Import.theme := by
      simpa [Layout.importing, ComponentModule.functionLayout, ComponentModule.sheetLayout, bracedBlock] using imported
    exact absurd lines (by decide +kernel)

end Document
end Handoff
