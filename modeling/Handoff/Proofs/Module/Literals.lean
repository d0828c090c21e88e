import Handoff.Proofs.Component.Texts
import Handoff.Proofs.Module.Jsx
import Handoff.Proofs.Module.Rendering
import Handoff.Proofs.Module.Spans

/-!
# Literal texts

What the characters of text nodes denote where they are written between the tags of their elements, on a line of
their own. Characters that make an expression necessary are written as one, and it denotes exactly them. Any others
are written as they are: as plain text on lines of its own, or between the tags of a translation. Then line breaks,
references and, on lines of their own, blanks at the ends are not read as they are written.
-/

namespace Handoff

/-! ## Contents of a model -/

/-- Whether a node of a model is written as a text element. -/
def ModelNode.showsText (n : ModelNode) : Bool := n.kind == .text && n.swapProp.isNone

/-- The characters that a node is written with where no property is bound to its text. -/
def ModelNode.literal (n : ModelNode) : String := n.characters.getD ""

/-- A node is written with its characters exactly if no property is bound to its text. -/
theorem ModelNode.content_eq_literal_iff {n : ModelNode} {characters : String} {translated : Bool} :
    n.content translated = .literal characters translated ↔ n.textProp = none ∧ n.literal = characters := by
  unfold content literal
  cases n.textProp <;> simp

private theorem leavesAll_eq_flatMap (elements : List (Option String × Markup)) :
    Markup.leavesAll elements = elements.flatMap (·.2.leaves) := by
  induction elements with
  | nil => rfl
  | cons e rest ih =>
    obtain ⟨prop, element⟩ := e
    rw [Markup.leavesAll, ih, List.flatMap_cons]

private theorem nodesAll_eq_flatMap (entries : List Entry) : Entry.nodesAll entries = entries.flatMap (·.nodes) := by
  induction entries with
  | nil => rfl
  | cons entry rest ih => rw [Entry.nodesAll, ih, List.flatMap_cons]

/-- Whether an element shows a text. -/
def Markup.isText : Markup → Bool
  | text _ _ _ => true
  | _ => false

namespace Model

/-- The element of a text node. -/
def textMarkup (m : Model) (translated : Bool) (n : ModelNode) : Markup :=
  .text n.tag (m.looksOfNode n) (n.content translated)

/-- The text elements of entries are those of the text nodes in them. -/
private theorem texts_of_forall {m : Model} {translated : Bool} {entries : List Entry}
    (h : ∀ entry ∈ entries, (m.markup translated entry).leaves.filter (·.isText) =
      (entry.nodes.filter (·.showsText)).map (m.textMarkup translated)) :
    (Markup.leavesAll (m.markupAll translated entries)).filter (·.isText) =
      ((Entry.nodesAll entries).filter (·.showsText)).map (m.textMarkup translated) := by
  rw [leavesAll_eq_flatMap, markupAll_eq_map, nodesAll_eq_flatMap, List.flatMap_map]
  induction entries with
  | nil => rfl
  | cons entry rest ih =>
    rw [List.forall_mem_cons] at h
    simp only [List.flatMap_cons, List.filter_append, List.map_append, h.1, ih h.2]

private theorem texts_markup (m : Model) (translated : Bool) {entry : Entry} (alone : entry.TextsAlone) :
    (m.markup translated entry).leaves.filter (·.isText) =
      (entry.nodes.filter (·.showsText)).map (m.textMarkup translated) := by
  induction alone with
  | @leaf n isAsset noText =>
    rw [markup, Entry.nodes, leafMarkup?]
    cases swap : n.swapProp with
    | some prop => simp [Markup.leaves, Markup.isText, ModelNode.showsText, swap]
    | none =>
      cases isAsset with
      | true =>
        have other : n.kind ≠ .text := noText (.inl rfl)
        cases found : m.assets.get? n.id <;>
          simp [assetMarkup, found, Markup.leaves, Markup.isText, ModelNode.showsText, other]
      | false =>
        cases used : n.use with
        | some u =>
          have other : n.kind ≠ .text := noText (.inr (by rw [used]; rfl))
          cases icon : u.icon <;>
            simp [InstanceUse.markup, icon, Markup.leaves, Markup.isText, ModelNode.showsText, other]
        | none =>
          by_cases kind : n.kind = .text <;>
            simp [kind, Markup.leaves, Markup.isText, ModelNode.showsText, swap, textMarkup]
  | @container n entries noText swap used _ ih =>
    have container : m.leafMarkup? translated n false = none := by simp [leafMarkup?, swap, used, noText]
    have other : n.showsText = false := by simp [ModelNode.showsText, noText]
    rw [markup, container, Option.getD_none, Markup.leaves, texts_of_forall ih, Entry.nodes,
      List.filter_cons_of_neg (by simp [other])]

/-- The text elements of a model are those of its text nodes that no property swaps, in order. -/
theorem texts_body {m : Model} (translated : Bool) (alone : ∀ entry ∈ m.tree, entry.TextsAlone) :
    (Markup.leavesAll (m.markupAll translated m.tree)).filter (·.isText) =
      (m.nodes.filter (·.showsText)).map (m.textMarkup translated) :=
  texts_of_forall fun entry listed => texts_markup m translated (alone entry listed)

end Model

private theorem contents_filter (elements : List Markup) :
    (elements.filter (·.isText)).filterMap Markup.content? = elements.filterMap Markup.content? := by
  rw [List.filterMap_filter]
  congr 1
  funext element
  cases element <;> rfl

/-! ## What a literal denotes -/

namespace Jsx.Rules

variable {r : Rules} {characters : String} {translated : Bool}

/-- What the characters of a literal denote between tags. -/
def literalValue (r : Rules) (characters : String) (translated : Bool) : List Char :=
  if Text.needsExpression characters then characters.toList
  else r.decode (if translated then r.joined characters.toList else r.alone characters.toList)

/-- Whether characters denote themselves as plain text: they hold no line break and no reference, and no blank
stands at their ends, unless tags do. -/
def Faithful (r : Rules) (characters : List Char) (translated : Bool) : Prop :=
  (∀ c ∈ characters, r.isBreak c = false) ∧ ¬ r.Refers characters ∧
    (translated = false →
      (∀ c ∈ characters.head?, r.isBlank c = false) ∧ ∀ c ∈ characters.getLast?, r.isBlank c = false)

/-- A literal denotes its characters exactly if it is written as an expression or they denote themselves. -/
theorem literalValue_eq_iff : r.literalValue characters translated = characters.toList ↔
    Text.needsExpression characters = true ∨ r.Faithful characters.toList translated := by
  rw [literalValue, Faithful]
  cases Text.needsExpression characters with
  | true => simp
  | false =>
    cases translated with
    | true => simp [decode_joined_eq_iff]
    | false => simp [decode_alone_eq_iff]

private theorem isPlain_of_needsExpression (h : Text.needsExpression characters = false) :
    (∀ c ∈ characters.toList, isPlain c = true) ∧ '\n' ∉ characters.toList := by
  have none : ∀ c ∈ characters.toList, ¬ c ∈ ['\x7b', '\x7d', '<', '>', '\n'] := by
    simpa [Text.needsExpression] using h
  refine ⟨fun c hc => ?_, fun hc => none _ hc (by decide)⟩
  have other := none c hc
  simp only [List.mem_cons, not_or, List.not_mem_nil] at other
  simp [isPlain, other]

private theorem newline_not_mem_stringChars (s : String) : '\n' ∉ Json.stringChars s := by
  have digits : ∀ k < 16, '\n' ≠ Nat.digitChar k := by decide
  have digit (n : Nat) : '\n' ≠ Nat.digitChar (n % 16) := digits _ (Nat.mod_lt _ (by decide))
  have escaped (c : Char) : '\n' ∉ Json.escapeChar c := by
    have hex : '\n' ∉ Json.hexFour c.toNat := by simp [Json.hexFour, digit]
    grind [Json.escapeChar]
  simp [Json.stringChars, escaped]

private theorem newline_not_mem_text (characters : String) (translated : Bool) :
    '\n' ∉ (TextContent.literal characters translated).text.toList := by
  have flat : '\n' ∉ (TextContent.literalText characters).toList := by
    rw [TextContent.literalText]
    split
    · simp [braced, Json.stringText, newline_not_mem_stringChars]
    · next raw => exact (isPlain_of_needsExpression (by simpa using raw)).2
  cases translated with
  | true =>
    have tag : '\n' ∉ Import.translateTag.toList := by decide
    simp [TextContent.text, flat, tag]
  | false => exact flat

section

variable {s : WriterSettings} {depth : Nat} {blanks : List Char}
  (h : ∀ c ∈ blanks, c ∈ Layout.indentation (Writer.unitOf s) depth)
include h

private theorem isBlank_of_indentation : ∀ c ∈ blanks, r.isBlank c = true := by
  intro c hc
  rcases Layout.mem_indentation_unitOf (h c hc) with rfl | rfl
  · exact r.isBlank_space
  · exact r.isBlank_tab

private theorem isPlain_of_indentation : ∀ c ∈ '\n' :: blanks, isPlain c = true := by
  intro c hc
  rcases List.mem_cons.1 hc with rfl | hc
  · rfl
  · rcases Layout.mem_indentation_unitOf (h c hc) with rfl | rfl <;> rfl

private theorem children?_indentation : r.children? ('\n' :: blanks) = some [] := by
  rw [children?_plain (isPlain_of_indentation h), plainText_feed (isBlank_of_indentation h)]

end

section

variable {s : WriterSettings} {depth : Nat} {front back : List Char}
  (lead : ∀ c ∈ front, c ∈ Layout.indentation (Writer.unitOf s) (depth + 1))
  (trail : ∀ c ∈ back, c ∈ Layout.indentation (Writer.unitOf s) depth)
include lead trail

private theorem children?_own_line (characters : String) :
    r.children? ('\n' :: front ++ ((TextContent.literal characters false).text.toList ++ '\n' :: back)) =
      some (r.literalValue characters false) := by
  rw [TextContent.text, TextContent.literalText, literalValue]
  split
  · have expression := children?_expression (isPlain_of_indentation lead) characters
      (children?_indentation (r := r) trail)
    rw [plainText_feed (isBlank_of_indentation lead)] at expression
    simpa [braced, Json.stringText] using expression
  · next raw =>
    have plain := (isPlain_of_needsExpression (by simpa using raw)).1
    have all : ∀ c ∈ '\n' :: front ++ (characters.toList ++ '\n' :: back), isPlain c = true := by
      simp only [List.forall_mem_append]
      exact ⟨isPlain_of_indentation lead, plain, isPlain_of_indentation trail⟩
    rw [children?_plain all, plainText, List.cons_append,
      joined_padded (isBlank_of_indentation lead) (isBlank_of_indentation trail)]
    rfl

private theorem children?_translated (characters : String) :
    r.children? ('\n' :: front ++ ((TextContent.literal characters true).text.toList ++ '\n' :: back)) =
      some (r.literalValue characters true) := by
  have closing {text : List Char} (plain : ∀ c ∈ text, isPlain c = true) :=
    children?_tag plain ('/' :: Import.translateTag.toList) (by decide) (children?_indentation (r := r) trail)
  have inner : r.children? ((TextContent.literalText characters).toList ++
      '<' :: (('/' :: Import.translateTag.toList) ++ '>' :: '\n' :: back)) =
        some (r.literalValue characters true) := by
    rw [TextContent.literalText, literalValue]
    split
    · have expression := children?_expression (List.forall_mem_nil _) characters (closing (List.forall_mem_nil _))
      simpa [braced, Json.stringText] using expression
    · next raw => simpa [plainText] using closing (isPlain_of_needsExpression (by simpa using raw)).1
  have opening := children?_tag (isPlain_of_indentation lead) Import.translateTag.toList (by decide) inner
  rw [plainText_feed (isBlank_of_indentation lead)] at opening
  simpa [TextContent.text] using opening

end

/-- What stands between the tags of an element that shows a literal denotes the value of the literal. -/
theorem children?_content (r : Rules) (s : WriterSettings) (depth : Nat) (characters : String) (translated : Bool) :
    r.children? ((Span.content depth (.literal characters translated)).text (Writer.unitOf s)) =
      some (r.literalValue characters translated) := by
  obtain ⟨front, lead, line⟩ := Layout.exists_indented_of_flat (Layout.indentation (Writer.unitOf s) (depth + 1))
    (newline_not_mem_text characters translated)
  have written : (Span.content depth (.literal characters translated)).text (Writer.unitOf s) =
      '\n' :: front ++ ((TextContent.literal characters translated).text.toList ++
        '\n' :: Layout.indentation (Writer.unitOf s) depth) := by
    simp [Span.text, Layout.lineChars, line]
  rw [written]
  cases translated with
  | true => exact children?_translated lead (fun _ hc => hc) characters
  | false => exact children?_own_line lead (fun _ hc => hc) characters

/-- Line feeds and carriage returns part lines, blanks and tabs go, and some marks have names. -/
def common : Rules where
  isBreak c := c == '\n' || c == '\r'
  isBlank c := c == ' ' || c == '\t'
  names name := [("amp", '&'), ("lt", '<'), ("gt", '>'), ("quot", '"'), ("apos", '\'')].lookup (String.ofList name)
  isBreak_feed := rfl
  isBlank_space := rfl
  isBlank_tab := rfl
  isBreak_of_isBlank := by
    intro c h
    rcases (by simpa using h : c = ' ' ∨ c = '\t') with rfl | rfl <;> rfl

/-- Blanks in front of a text are not read. -/
example : common.literalValue "  Terms" false = "Terms".toList := by decide +kernel

end Jsx.Rules

namespace Document

variable {d : Document} {settings : Settings} {id : NodeId} {selected : Option NodeId} {descriptor : Descriptor}
  {log : List LogRecord} {m : Model} {written : ComponentModule}

/-- The text elements of the module of a component are those of the text nodes that no property swaps. -/
private theorem texts_module (h : d.module? settings id selected = some (descriptor, written))
    (extracted : d.extract descriptor = (log, .ok m)) :
    (Markup.leavesAll written.body).filter (·.isText) =
      (m.nodes.filter (·.showsText)).map (m.textMarkup settings.react.addTranslate) := by
  obtain ⟨-, _, _, extracted', emitted⟩ := module?_eq_some_iff.1 h
  cases extracted.symm.trans extracted'
  have body : written.body = m.markupAll settings.react.addTranslate m.tree := by
    obtain ⟨_, -, rfl⟩ := ComponentModule.exists_of_ofModel emitted
    rfl
  rw [body, Model.texts_body _ (textsAlone_of_extract extracted)]

/-- The contents of the module of a component are those of the text nodes that no property swaps. -/
private theorem contents_module (h : d.module? settings id selected = some (descriptor, written))
    (extracted : d.extract descriptor = (log, .ok m)) :
    (written.spans settings).filterMap Span.content? =
      (m.nodes.filter (·.showsText)).map (·.content settings.react.addTranslate) := by
  rw [written.contents_spans, ← contents_filter, texts_module h extracted, List.filterMap_map]
  exact congrFun List.filterMap_eq_map' _

/-- A text node that no property swaps is written as its element. -/
private theorem exists_textSpans (h : d.module? settings id selected = some (descriptor, written))
    (extracted : d.extract descriptor = (log, .ok m)) {n : ModelNode} (listed : n ∈ m.nodes)
    (shows : n.showsText = true) :
    ∃ depth, Markup.textSpans (Writer.unitOf settings.writer) depth n.tag (m.looksOfNode n)
      (n.content settings.react.addTranslate) <:+: written.spans settings := by
  have mem : m.textMarkup settings.react.addTranslate n ∈ (Markup.leavesAll written.body).filter (·.isText) := by
    rw [texts_module h extracted]
    exact List.mem_map_of_mem (List.mem_filter.2 ⟨listed, shows⟩)
  obtain ⟨depth, _, part⟩ := ComponentModule.exists_spans_of_mem_leavesAll (s := settings) (List.mem_filter.1 mem).1
  exact ⟨depth, part⟩

/-- A text node of a model, unless a property is bound to its text or swaps it, is written with its characters
between the tags of its element. What stands there can be read: it denotes exactly the characters if they are
written as an expression, or if they hold no line break, no reference and, unless they are translated, no blank at
their ends, and otherwise it denotes something else. The contents are told apart by spans of the module, which make
up its text. -/
theorem literals_render_iff (r : Jsx.Rules) (d : Document) (settings : Settings) (id : NodeId)
    (selected : Option NodeId) {descriptor : Descriptor} {log : List LogRecord} {m : Model}
    {written : ComponentModule} (h : d.module? settings id selected = some (descriptor, written))
    (extracted : d.extract descriptor = (log, .ok m)) :
    Span.textAll (Writer.unitOf settings.writer) (written.spans settings) = (written.text settings).toList ∧
    (written.spans settings).filterMap Span.content? =
      (m.nodes.filter (·.showsText)).map (·.content settings.react.addTranslate) ∧
    ∀ n ∈ m.nodes, n.showsText = true →
      (∃ depth, Markup.textSpans (Writer.unitOf settings.writer) depth n.tag (m.looksOfNode n)
        (n.content settings.react.addTranslate) <:+: written.spans settings) ∧
      (n.textProp = none → ∀ depth,
        r.children? ((Span.content depth (n.content settings.react.addTranslate)).text
          (Writer.unitOf settings.writer)) = some (r.literalValue n.literal settings.react.addTranslate) ∧
        (r.literalValue n.literal settings.react.addTranslate = n.literal.toList ↔
          Text.needsExpression n.literal = true ∨
            r.Faithful n.literal.toList settings.react.addTranslate)) := by
  refine ⟨written.textAll_spans settings, contents_module h extracted, fun n listed shows =>
    ⟨exists_textSpans h extracted listed shows, fun unbound depth => ?_⟩⟩
  rw [ModelNode.content_eq_literal_iff.2 ⟨unbound, rfl⟩]
  exact ⟨Jsx.Rules.children?_content _ _ _ _ _, Jsx.Rules.literalValue_eq_iff⟩

/-- A card with a label. -/
def labelledCard (characters : String) (propertyReferences : PropertyReferences) : Document :=
  filed [{ id := "a", name := "Card", kind := .component, children := ["b"] },
    { id := "b", name := "Label", kind := .text, text := some { characters }, propertyReferences }]

/-- The label of a card whose module holds the characters of the label. -/
private theorem exists_label (characters : String)
    (h : ((labelledCard characters {}).module? {} "a" none).map
      (fun w => (w.2.spans {}).filterMap Span.content?) = some [.literal characters false]) :
    ∃ descriptor log m written, (labelledCard characters {}).module? {} "a" none = some (descriptor, written) ∧
      (labelledCard characters {}).extract descriptor = (log, .ok m) ∧
      ∃ n ∈ m.nodes, n.showsText = true ∧ n.textProp = none ∧ n.literal = characters := by
  obtain ⟨⟨descriptor, written⟩, found, contents⟩ := Option.map_eq_some_iff.1 h
  obtain ⟨-, log, m, extracted, -⟩ := module?_eq_some_iff.1 found
  have label : .literal characters false ∈ (m.nodes.filter (·.showsText)).map (·.content false) := by
    rw [← contents_module found extracted, contents]
    exact List.mem_singleton_self _
  obtain ⟨n, listed, content⟩ := List.mem_map.1 label
  obtain ⟨listed, shows⟩ := List.mem_filter.1 listed
  exact ⟨descriptor, log, m, written, found, extracted, n, listed, shows,
    ModelNode.content_eq_literal_iff.1 content⟩

/-- An ampersand at which no reference begins is read as it is written. -/
theorem literals_render_termsCard : ∃ descriptor log m written,
    (labelledCard "Terms & conditions" {}).module? {} "a" none = some (descriptor, written) ∧
    (labelledCard "Terms & conditions" {}).extract descriptor = (log, .ok m) ∧
    ∃ n ∈ m.nodes, n.showsText = true ∧ n.textProp = none ∧ n.literal = "Terms & conditions" ∧
      ∃ depth, Markup.textSpans "  " depth n.tag (m.looksOfNode n) (n.content false) <:+: written.spans {} ∧
        Jsx.Rules.common.children? ((Span.content depth (n.content false)).text "  ") =
          some "Terms & conditions".toList := by
  obtain ⟨descriptor, log, m, written, found, extracted, n, listed, shows, unbound, characters⟩ :=
    exists_label "Terms & conditions" (by decide +kernel)
  obtain ⟨-, -, nodes⟩ := literals_render_iff Jsx.Rules.common (labelledCard "Terms & conditions" {}) {} "a" none
    found extracted
  obtain ⟨⟨depth, part⟩, read⟩ := nodes n listed shows
  obtain ⟨value, exact_iff⟩ := read unbound depth
  have faithful : Jsx.Rules.common.Faithful n.literal.toList false := by
    rw [characters]
    exact ⟨by simp [Jsx.Rules.common], fun refers => absurd refers.semicolon_mem (by simp),
      fun _ => by simp [Jsx.Rules.common]⟩
  exact ⟨descriptor, log, m, written, found, extracted, n, listed, shows, unbound, characters, depth, part,
    value.trans (congrArg some ((exact_iff.2 (.inr faithful)).trans (by rw [characters])))⟩

/-- The label of a card whose module holds no characters. -/
private theorem exists_unwritten (characters : String) (references : PropertyReferences)
    (h : (((labelledCard characters references).module? {} "a" none).map fun w =>
      (((labelledCard characters references).extract w.1).2.toOption.map fun m =>
        m.nodes.map fun n => (n.kind, n.textProp), (w.2.spans {}).filterMap Span.content?)) =
      some (some [(.text, none)], [])) :
    ∃ descriptor log m written,
      (labelledCard characters references).module? {} "a" none = some (descriptor, written) ∧
      (labelledCard characters references).extract descriptor = (log, .ok m) ∧
      (∃ n ∈ m.nodes, n.kind = .text ∧ n.textProp = none) ∧ (written.spans {}).filterMap Span.content? = [] := by
  obtain ⟨⟨descriptor, written⟩, found, parts⟩ := Option.map_eq_some_iff.1 h
  obtain ⟨-, log, m, extracted, -⟩ := module?_eq_some_iff.1 found
  obtain ⟨nodes, contents⟩ := Prod.mk.inj parts
  rw [extracted] at nodes
  have nodes : (m.nodes.map fun n => (n.kind, n.textProp)) = [(.text, none)] := Option.some.inj nodes
  have label : (NodeKind.text, none) ∈ m.nodes.map fun n => (n.kind, n.textProp) := by
    rw [nodes]
    exact List.mem_singleton_self _
  obtain ⟨n, listed, same⟩ := List.mem_map.1 label
  exact ⟨descriptor, log, m, written, found, extracted, ⟨n, listed, Prod.mk.inj same⟩, contents⟩

/-- Blanks at the front of a label are not read, and the characters of a label that a property swaps are not
written. -/
theorem literal_lost_labelledCard :
    (∃ descriptor log m written,
      (labelledCard "  Terms" {}).module? {} "a" none = some (descriptor, written) ∧
      (labelledCard "  Terms" {}).extract descriptor = (log, .ok m) ∧
      ∃ n ∈ m.nodes, n.kind = .text ∧ n.textProp = none ∧ n.literal = "  Terms" ∧
        ∃ depth, Markup.textSpans "  " depth n.tag (m.looksOfNode n) (n.content false) <:+: written.spans {} ∧
          Jsx.Rules.common.children? ((Span.content depth (n.content false)).text "  ") ≠
            some "  Terms".toList) ∧
    ∃ descriptor log m written,
      (labelledCard "Terms" { mainComponent := some "Icon" }).module? {} "a" none = some (descriptor, written) ∧
      (labelledCard "Terms" { mainComponent := some "Icon" }).extract descriptor = (log, .ok m) ∧
      (∃ n ∈ m.nodes, n.kind = .text ∧ n.textProp = none) ∧
      (written.spans {}).filterMap Span.content? = [] := by
  refine ⟨?_, exists_unwritten "Terms" { mainComponent := some "Icon" } (by decide +kernel)⟩
  obtain ⟨descriptor, log, m, written, found, extracted, n, listed, shows, unbound, characters⟩ :=
    exists_label "  Terms" (by decide +kernel)
  obtain ⟨depth, part⟩ := exists_textSpans found extracted listed shows
  have kind : n.kind = .text := by
    simp only [ModelNode.showsText, Bool.and_eq_true, beq_iff_eq] at shows
    exact shows.1
  refine ⟨descriptor, log, m, written, found, extracted, n, listed, kind, unbound, characters, depth, part,
    fun same => ?_⟩
  rw [ModelNode.content_eq_literal_iff.2 ⟨unbound, characters⟩] at same
  have value := (Jsx.Rules.children?_content Jsx.Rules.common {} depth "  Terms" false).symm.trans same
  rcases Jsx.Rules.literalValue_eq_iff.1 (Option.some.inj value) with expression | ⟨-, -, blank⟩
  · exact absurd expression (by decide +kernel)
  · exact absurd ((blank rfl).1 ' ' rfl) (by decide)

end Document
end Handoff
