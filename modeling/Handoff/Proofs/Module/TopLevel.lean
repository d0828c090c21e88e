import Handoff.Module.Printer
import Handoff.Proofs.Module.Imports
import Handoff.Proofs.Text.Naming

/-!
# Names at the top of a module

A module binds the names that it imports, the interface of its component, the component and its styles. The
names of components come from the design, squeezed into identifiers, and nothing keeps them apart from each
other or from the names that come from libraries. When all names are distinct, and when all of them can be
bound, is stated here in terms of the names of the components.
-/

namespace Handoff

/-- The names that an import binds. -/
def Import.names : Import → List String
  | default name _ => [name]
  | named names _ => names

namespace Layout

/-- The names that a line or a block at the top of a module binds: those that are imported, or the one that is
declared. A blank line binds none, and neither does a line of a comment, which begins with a slash or a blank. -/
inductive BindsNames (s : Settings) : Layout → List String → Prop
  | default (name source : String) :
    BindsNames s (line ("import " ++ name ++ " from " ++ s.quoted source ++ ";")) [name]
  | named (names : List String) (source : String) : BindsNames s (importing s names source) names
  | interface (name : String) (body : List Layout) :
    BindsNames s (block ("export interface " ++ name ++ " \x7b") "\x7d" body) [name]
  | function (name parameters : String) (body : List Layout) :
    BindsNames s (block ("export function " ++ name ++ "(" ++ parameters ++ ") \x7b") "\x7d" body) [name]
  | sheet (name : String) (body : List Layout) :
    BindsNames s (block ("const " ++ name ++ " = StyleSheet.create(\x7b") "\x7d);" body) [name]
  | blank : BindsNames s blank []
  | comment (text : String) : text.toList.head? = some '/' ∨ text.toList.head? = some ' ' → BindsNames s (line text) []

/-- Whether layouts bind names at their top, one layout after the other. -/
def BindsAll (s : Settings) (layouts : List Layout) (names : List String) : Prop :=
  ∃ each, List.Forall₂ (BindsNames s) layouts each ∧ each.flatten = names

section

variable {s : Settings} {a b : List Layout} {first others : List String}

/-- Layouts bind what the first ones bind, and then what the others bind. -/
theorem BindsAll.append (ha : BindsAll s a first) (hb : BindsAll s b others) :
    BindsAll s (a ++ b) (first ++ others) := by
  obtain ⟨_, binds, rfl⟩ := ha
  obtain ⟨_, binds', rfl⟩ := hb
  exact ⟨_, List.rel_append binds binds', List.flatten_append⟩

/-- A list of layouts binds what each of them binds. -/
theorem bindsAll_map {α : Type} (l : List α) {layout : α → Layout} {names : α → List String}
    (h : ∀ x ∈ l, BindsNames s (layout x) (names x)) : BindsAll s (l.map layout) (l.flatMap names) := by
  refine ⟨l.map names, ?_, rfl⟩
  rw [List.forall₂_map_left_iff, List.forall₂_map_right_iff]
  exact List.forall₂_same.2 h

end

end Layout

namespace Model

variable {m : Model} {s : Settings} {owner : NodeId}

/-- The names that a module takes from libraries, beside that of the icon component. -/
def libraryNames (m : Model) (s : Settings) : List String :=
  (if s.react.addImport then Import.framework.names else [])
    ++ (if s.react.addTranslate && m.primitives.contains .text then Import.localText.names else [])
    ++ (Import.primitives m.primitives).names

/-- The name of the icon component, if it is used. -/
def iconNames (m : Model) (s : Settings) : List String :=
  if m.icons.isEmpty then [] else [s.icons.component]

/-- The names of the components that a module refers to. -/
def references (m : Model) (owner : NodeId) : List String :=
  (m.components.entries.filter (·.1 ≠ owner)).map (·.2)

/-- The names that the imports of a module bind. -/
theorem names_imports (m : Model) (s : Settings) (owner : NodeId) :
    (m.imports s owner).flatMap Import.names =
      m.libraryNames s ++ m.iconNames s ++ m.references owner ++ Import.theme.names := by
  have components (l : List (String × String)) :
      (l.map (Import.component ·.2)).flatMap Import.names = l.map (·.2) := by
    induction l with
    | nil => rfl
    | cons e rest ih => exact congrArg (e.2 :: ·) ih
  have optional (c : Prop) [Decidable c] (i : Import) :
      (if c then [i] else []).flatMap Import.names = if c then i.names else [] := by
    split <;> simp
  have icons : (if m.icons.isEmpty then []
      else [Import.named [s.icons.component] s.icons.importPath]).flatMap Import.names = m.iconNames s := by
    unfold iconNames
    split <;> simp [Import.names]
  simp only [imports, List.flatMap_append, optional, icons, components, List.flatMap_singleton,
    libraryNames, references]

/-- The names that come from libraries. -/
def libraryWords : List String := ["React", "Trans", "StyleSheet", "View", "Text", "Image", "Svg"]

/-- The names of the theme and of the styles. -/
def ownWords : List String := ["theme", "styles"]

/-- The names that a module binds whatever its components are called. -/
def fixedNames (m : Model) (s : Settings) : List String := m.libraryNames s ++ ownWords

private theorem mem_names_primitives {used : OrderedSet Primitive} {name : String}
    (h : name ∈ (Import.primitives used).names) : name ∈ ["StyleSheet", "View", "Text", "Image", "Svg"] := by
  simp only [Import.primitives, Import.names, List.cons_append, List.nil_append, List.mem_cons,
    List.mem_map] at h
  rcases h with rfl | rfl | ⟨p, -, rfl⟩
  · decide
  · decide
  · cases p <;> decide

/-- A name that a module takes from a library is one of a few. -/
theorem mem_libraryNames {name : String} (h : name ∈ m.libraryNames s) : name ∈ libraryWords := by
  unfold libraryNames at h
  rcases List.mem_append.1 h with h | h
  · rcases List.mem_append.1 h with h | h
    · split at h
      · rw [List.mem_singleton.1 h]
        decide
      · cases h
    · split at h
      · rw [List.mem_singleton.1 h]
        decide
      · cases h
  · exact List.mem_cons_of_mem _ (List.mem_cons_of_mem _ (mem_names_primitives h))

/-- A name that a module binds in any case is one of a few. -/
theorem mem_fixedNames {name : String} (h : name ∈ m.fixedNames s) : name ∈ libraryWords ++ ownWords :=
  List.mem_append.2 ((List.mem_append.1 h).imp_left mem_libraryNames)

private theorem nodup_libraryNames : (m.libraryNames s).Nodup := by
  have primitives : (Import.primitives m.primitives).names.Nodup :=
    nodup_primitives (m.primitives.nodup.filter _) (by simp)
  have react : "React" ∉ (Import.primitives m.primitives).names :=
    fun h => absurd (mem_names_primitives h) (by decide)
  have trans : "Trans" ∉ (Import.primitives m.primitives).names :=
    fun h => absurd (mem_names_primitives h) (by decide)
  have framework : Import.framework.names = ["React"] := rfl
  have localText : Import.localText.names = ["Trans"] := rfl
  rw [libraryNames, framework, localText]
  split <;> split <;> simp [primitives, react, trans]

/-- The names that a module binds in any case are distinct. -/
theorem nodup_fixedNames : (m.fixedNames s).Nodup := by
  refine List.nodup_append.2 ⟨nodup_libraryNames, by decide, ?_⟩
  rintro name library _ own rfl
  have apart : ∀ word ∈ ownWords, word ∉ libraryWords := by decide
  exact apart name own (mem_libraryNames library)

end Model

namespace ComponentModule

variable {d : Document} {settings : Settings} {id : NodeId} {selected : Option NodeId}
  {descriptor : Descriptor} {log : List LogRecord} {model : Model} {written : ComponentModule}

/-- The name of the interface of a component, if it has one. -/
def interfaceNames (m : ComponentModule) : List String :=
  if m.interface.isEmpty then [] else [m.interfaceName]

/-- The names of the components that a module is about: the one that it describes, and those that it refers
to. -/
def componentNames (m : Model) (descriptor : Descriptor) : List String :=
  descriptor.name :: m.references descriptor.id

/-- The names that a module binds at its top level, in the order in which they are written. -/
def topLevelNames (m : ComponentModule) : List String :=
  m.imports.flatMap Import.names ++ m.interfaceNames ++ [m.name, StyleRef.stylesName]

private theorem bindsNames_import (s : Settings) (i : Import) : (Layout.line (i.text s)).BindsNames s i.names := by
  cases i with
  | default name source => exact .default name source
  | named names source =>
    rw [Import.line_text_named]
    exact .named names source

private theorem head?_lineText (line : List Char) : (Documentation.lineText line).toList.head? = some ' ' := by
  have starred : ['*', ' '].dropWhile Unicode.isWhiteSpace = ['*', ' '] := by decide
  have reversed : (" * ".toList ++ Text.trim line).reverse = ((' ' :: Text.trim line).reverse) ++ ['*', ' '] := by simp
  rw [Documentation.lineText, String.toList_ofList, Text.trimEnd, reversed, List.dropWhile_append, starred]
  split
  · rfl
  · simp

private theorem bindsAll_documentation (s : Settings) (documentation : Option Documentation) :
    Layout.BindsAll s ((documentation.map (·.layouts)).getD []) [] := by
  have comment {α : Type} (l : List α) (text : α → String)
      (begins : ∀ x, (text x).toList.head? = some '/' ∨ (text x).toList.head? = some ' ') :
      Layout.BindsAll s (l.map (.line <| text ·)) [] := by
    have none : l.flatMap (fun _ => ([] : List String)) = [] := List.flatMap_eq_nil_iff.2 fun _ _ => rfl
    exact none ▸ Layout.bindsAll_map l fun x _ => .comment _ (begins x)
  cases documentation with
  | none => exact ⟨[], .nil, rfl⟩
  | some d =>
    have first := comment [()] (fun _ => "/**") fun _ => .inl (by decide)
    have last := comment [()] (fun _ => " */") fun _ => .inr (by decide)
    have lines := comment (Text.lines d.description.toList) Documentation.lineText
      fun line => .inr (head?_lineText line)
    have link := comment d.link.toList (" * @link " ++ ·) fun _ => .inr (by simp)
    exact ((first.append lines).append link).append last

private theorem bindsAll_interface (s : Settings) (m : ComponentModule) :
    Layout.BindsAll s (m.interfaceLayouts s) m.interfaceNames := by
  unfold interfaceLayouts interfaceNames
  split
  · exact ⟨[], .nil, rfl⟩
  · have opening : "export interface " ++ m.interfaceName ++ " " ++ "\x7b" =
        "export interface " ++ m.interfaceName ++ " \x7b" := String.append_assoc
    rw [bracedBlock, opening]
    exact ⟨[[m.interfaceName], []], .cons (.interface _ _) (.cons .blank .nil), rfl⟩

/-- What a module writes at its top binds these names. -/
theorem bindsAll_layouts (s : Settings) (m : ComponentModule) : Layout.BindsAll s (m.layouts s) m.topLevelNames := by
  have imports : Layout.BindsAll s (m.imports.map fun i => .line (i.text s)) (m.imports.flatMap Import.names) :=
    Layout.bindsAll_map m.imports fun i _ => bindsNames_import s i
  have blank : Layout.BindsAll s [.blank] [] := ⟨[[]], .cons .blank .nil, rfl⟩
  have opening : "export function " ++ m.name ++ "(" ++ m.parameterText ++ ") " ++ "\x7b" =
      "export function " ++ m.name ++ "(" ++ m.parameterText ++ ") \x7b" := String.append_assoc
  have declared : Layout.BindsAll s [m.functionLayout s, .blank, m.sheetLayout s] [m.name, StyleRef.stylesName] := by
    refine ⟨[[m.name], [], [StyleRef.stylesName]], ?_, rfl⟩
    rw [functionLayout, bracedBlock, opening]
    exact .cons (.function _ _ _) (.cons .blank (.cons (.sheet _ _) .nil))
  have all := (((imports.append blank).append (bindsAll_interface s m)).append
    (bindsAll_documentation s m.documentation)).append declared
  rw [List.append_nil, List.append_nil] at all
  exact all

/-- The names that a module binds, sorted by where they come from: the icon component, what the module binds
in any case, the interface, and the components. -/
private theorem topLevelNames_perm (emitted : ofModel settings descriptor model = .ok written) :
    written.topLevelNames.Perm
      (model.iconNames settings ++ (model.fixedNames settings
        ++ (written.interfaceNames ++ componentNames model descriptor))) := by
  obtain ⟨_, -, rfl⟩ := exists_of_ofModel emitted
  simp only [topLevelNames, Model.names_imports, Model.fixedNames, Model.ownWords, componentNames]
  show List.Perm (_ ++ ["theme"] ++ _ ++ [descriptor.name, "styles"]) _
  refine List.perm_iff_count.2 fun name => ?_
  simp only [List.count_append, List.count_cons, List.count_nil]
  omega

/-- Whether the names of the components and of the icon component keep the names of a module apart. -/
structure NamesDistinct (m : Model) (settings : Settings) (descriptor : Descriptor)
    (written : ComponentModule) : Prop where
  /-- Different components that the module refers to have different names. -/
  references : (m.references descriptor.id).Nodup
  /-- None of them is called like the component. -/
  own : descriptor.name ∉ m.references descriptor.id
  /-- None of them is called like the interface. -/
  interface : ∀ name ∈ written.interfaceNames, name ∉ m.references descriptor.id
  /-- No component is called like something that comes from a library. -/
  library : ∀ name ∈ componentNames m descriptor, name ∉ m.libraryNames settings
  /-- The icon component is called like nothing else in the module. -/
  icon : ∀ name ∈ m.iconNames settings,
    name ∉ m.fixedNames settings ++ (written.interfaceNames ++ componentNames m descriptor)

/-- The names of the components that a module is about come from the design. -/
private theorem exists_node_of_name (described : d.describe id selected = .ok descriptor)
    (extracted : d.extract descriptor = (log, .ok model)) {name : String}
    (h : name ∈ componentNames model descriptor) :
    ∃ n ∈ d.nodes, name = Text.pascalIdentifier n.name := by
  rcases List.mem_cons.1 h with rfl | h
  · obtain ⟨target, t, -, found, -, own⟩ := Document.target_of_describe described
    exact ⟨t, Document.mem_nodes_of_node? found, own⟩
  · obtain ⟨e, he, rfl⟩ := List.mem_map.1 h
    obtain ⟨_, targets⟩ := Document.exists_targetName?_of_extract extracted e (List.mem_of_mem_filter he)
    obtain ⟨-, t, found, own⟩ := Document.targetName?_eq_some_iff.1 targets
    exact ⟨t, Document.mem_nodes_of_node? found, own.symm⟩

private theorem pascalIdentifier_not_mem (name : String) : Text.pascalIdentifier name ∉ Model.ownWords := by
  rcases Text.pascalIdentifier_cases name with ⟨empty, -⟩ | ⟨-, c, rest, starts, notSmall, -⟩
  · rw [empty]
    decide
  · have small : ∀ word ∈ Model.ownWords, (word.toList.head?.map Char.isLower) = some true := by decide
    intro h
    have head := small _ h
    simp [starts, notSmall] at head

/-- A component is called like a name that its module binds in any case only if this name comes from a
library. -/
private theorem mem_fixedNames_iff (described : d.describe id selected = .ok descriptor)
    (extracted : d.extract descriptor = (log, .ok model)) {name : String}
    (h : name ∈ componentNames model descriptor) :
    name ∈ model.fixedNames settings ↔ name ∈ model.libraryNames settings := by
  obtain ⟨n, -, rfl⟩ := exists_node_of_name described extracted h
  simp [Model.fixedNames, pascalIdentifier_not_mem]

private theorem interfaceName_not_mem (written : ComponentModule) :
    written.interfaceName ∉ Model.libraryWords ++ Model.ownWords ∧ written.interfaceName ≠ written.name := by
  have ends : "Props".toList <:+ written.interfaceName.toList := by
    rw [interfaceName, String.toList_append]
    exact List.suffix_append _ _
  have others : ∀ word ∈ Model.libraryWords ++ Model.ownWords, ¬ "Props".toList <:+ word.toList := by decide
  refine ⟨fun h => others _ h ends, fun same => ?_⟩
  have length := congrArg String.length same
  simp [interfaceName] at length

private theorem eq_of_mem_interfaceNames {name : String} (h : name ∈ written.interfaceNames) :
    name = written.interfaceName := by
  unfold interfaceNames at h
  split at h
  · cases h
  · exact List.mem_singleton.1 h

/-- The interface and the components have distinct names if the components have, and none of those that the
module refers to is called like the interface. -/
private theorem nodup_designNames_iff (called : written.name = descriptor.name) :
    (written.interfaceNames ++ componentNames model descriptor).Nodup ↔
      (model.references descriptor.id).Nodup ∧ descriptor.name ∉ model.references descriptor.id ∧
        ∀ name ∈ written.interfaceNames, name ∉ model.references descriptor.id := by
  have interface : written.interfaceNames.Nodup := by
    unfold interfaceNames
    split <;> simp
  rw [componentNames, List.nodup_append, List.nodup_cons]
  constructor
  · rintro ⟨-, ⟨own, references⟩, apart⟩
    exact ⟨references, own, fun name h other => apart name h name (List.mem_cons_of_mem _ other) rfl⟩
  · rintro ⟨references, own, apart⟩
    refine ⟨interface, ⟨own, references⟩, ?_⟩
    rintro name h _ other rfl
    rcases List.mem_cons.1 other with same | other
    · rw [eq_of_mem_interfaceNames h, ← called] at same
      exact (interfaceName_not_mem written).2 same
    · exact apart name h other

/-- When the names of a module are distinct. -/
private theorem nodup_topLevelNames_iff (described : d.describe id selected = .ok descriptor)
    (extracted : d.extract descriptor = (log, .ok model))
    (emitted : ofModel settings descriptor model = .ok written) :
    written.topLevelNames.Nodup ↔ NamesDistinct model settings descriptor written := by
  have icons : (model.iconNames settings).Nodup := by
    unfold Model.iconNames
    split <;> simp
  have called : written.name = descriptor.name := by
    obtain ⟨_, -, rfl⟩ := exists_of_ofModel emitted
    rfl
  rw [(topLevelNames_perm emitted).nodup_iff, List.nodup_append, List.nodup_append,
    nodup_designNames_iff called]
  constructor
  · rintro ⟨-, ⟨-, ⟨references, own, interface⟩, fixed⟩, icon⟩
    exact {
      references, own, interface
      library := fun name h other => fixed name (List.mem_append_left _ other) name
        (List.mem_append_right _ h) rfl
      icon := fun name h other => icon name h name other rfl }
  · intro distinct
    refine ⟨icons, ⟨Model.nodup_fixedNames, ⟨distinct.references, distinct.own, distinct.interface⟩, ?_⟩, ?_⟩
    · rintro name fixed _ other rfl
      rcases List.mem_append.1 other with h | h
      · rw [eq_of_mem_interfaceNames h] at fixed
        exact (interfaceName_not_mem written).1 (Model.mem_fixedNames fixed)
      · exact distinct.library name h ((mem_fixedNames_iff described extracted h).1 fixed)
    · rintro name h _ other rfl
      exact distinct.icon name h other

/-- When the names of a module can be bound. -/
private theorem isIdentifier_topLevelNames_iff (described : d.describe id selected = .ok descriptor)
    (extracted : d.extract descriptor = (log, .ok model))
    (emitted : ofModel settings descriptor model = .ok written) (a : Text.Alphabet) :
    (∀ name ∈ written.topLevelNames, a.isIdentifier name = true) ↔
      (∀ name ∈ componentNames model descriptor, name ≠ "" ∧ a.admits name = true) ∧
        ∀ name ∈ model.iconNames settings, a.isIdentifier name = true := by
  have design {name : String} (h : name ∈ componentNames model descriptor) :
      a.isIdentifier name = true ↔ name ≠ "" ∧ a.admits name = true := by
    obtain ⟨n, -, rfl⟩ := exists_node_of_name described extracted h
    exact a.isIdentifier_pascalIdentifier n.name
  have fixed : ∀ name ∈ model.fixedNames settings, a.isIdentifier name = true := by
    have words : ∀ word ∈ Model.libraryWords ++ Model.ownWords,
        Text.Alphabet.ascii.isIdentifier word = true := by decide +kernel
    exact fun name h => a.isIdentifier_of_ascii (words name (Model.mem_fixedNames h))
  have interface (own : a.isIdentifier descriptor.name = true) :
      ∀ name ∈ written.interfaceNames, a.isIdentifier name = true := by
    obtain ⟨_, -, rfl⟩ := exists_of_ofModel emitted
    obtain ⟨n, -, called⟩ := exists_node_of_name described extracted List.mem_cons_self
    intro name h
    have plain : Text.IsPlain "Props" := List.all_eq_true.1 (by decide)
    rw [eq_of_mem_interfaceNames h, interfaceName]
    simp only [called] at own ⊢
    exact a.isIdentifier_pascalIdentifier_append n.name plain (by simp) own
  have bound {name : String} := (topLevelNames_perm emitted).mem_iff (a := name)
  simp only [bound, List.mem_append]
  constructor
  · intro valid
    exact ⟨fun name h => (design h).1 (valid name (.inr (.inr (.inr h)))), fun name h => valid name (.inl h)⟩
  · rintro ⟨components, icon⟩ name (h | h | h | h)
    · exact icon name h
    · exact fixed name h
    · exact interface ((design List.mem_cons_self).2 (components _ List.mem_cons_self)) name h
    · exact (design h).2 (components name h)

/-- The names that a module binds at its top level, which are those that its lines and blocks there bind in its text.
The names of components come from the design: each is the identifier of a node's name, and it is empty only if that
name has neither letters nor numbers. All names of the module are distinct exactly if the names of the components and
of the icon component keep them apart. All can be bound exactly if the names of the components are not empty and
admitted as far as they go beyond ASCII, and the icon component, if it is used, has a name that can be bound. -/
theorem topLevelNames_iff (described : d.describe id selected = .ok descriptor)
    (extracted : d.extract descriptor = (log, .ok model))
    (emitted : ofModel settings descriptor model = .ok written) :
    written.Spells settings (written.text settings) ∧
      Layout.BindsAll settings (written.layouts settings) written.topLevelNames ∧
      (∀ name ∈ componentNames model descriptor, ∃ n ∈ d.nodes,
        name = Text.pascalIdentifier n.name ∧
          (name = "" ↔ ∀ c ∈ n.name.toList, Unicode.isAlphanumeric c = false)) ∧
      (written.topLevelNames.Nodup ↔ NamesDistinct model settings descriptor written) ∧
      ∀ a : Text.Alphabet, (∀ name ∈ written.topLevelNames, a.isIdentifier name = true) ↔
        (∀ name ∈ componentNames model descriptor, name ≠ "" ∧ a.admits name = true) ∧
          ∀ name ∈ model.iconNames settings, a.isIdentifier name = true := by
  refine ⟨spells_text settings written, bindsAll_layouts settings written, fun name h => ?_,
    nodup_topLevelNames_iff described extracted emitted,
    isIdentifier_topLevelNames_iff described extracted emitted⟩
  obtain ⟨n, hn, rfl⟩ := exists_node_of_name described extracted h
  refine ⟨n, hn, rfl, ?_⟩
  rcases Text.pascalIdentifier_cases n.name with ⟨empty, none⟩ | ⟨⟨c, hc, letter⟩, _, _, starts, -, -⟩
  · exact iff_of_true empty none
  · refine iff_of_false (fun empty => ?_) fun none => ?_
    · simp [empty] at starts
    · simp [none c hc] at letter

end ComponentModule

namespace Document

/-- The names in the module of the filled card are distinct, and all of them can be bound. -/
theorem topLevelNames_filledCard :
    ∃ descriptor log model written, filledCard.describe "a" none = .ok descriptor ∧
      filledCard.extract descriptor = (log, .ok model) ∧
      ComponentModule.ofModel translating descriptor model = .ok written ∧
      written.topLevelNames =
        ["Trans", "StyleSheet", "View", "Text", "Image", "Icon", "Button", "Mark", "theme", "Card",
          "styles"] ∧
      ComponentModule.NamesDistinct model translating descriptor written ∧
      ∀ a : Text.Alphabet, a.isIdentifier "Icon" = true ∧
        ∀ name ∈ ComponentModule.componentNames model descriptor, name ≠ "" ∧ a.admits name = true := by
  have names : (filledCard.module? translating "a" none).map (·.2.topLevelNames) =
      some ["Trans", "StyleSheet", "View", "Text", "Image", "Icon", "Button", "Mark", "theme", "Card",
        "styles"] := by decide +kernel
  obtain ⟨⟨descriptor, written⟩, found, names⟩ := Option.map_eq_some_iff.1 names
  obtain ⟨described, log, model, extracted, emitted⟩ := module?_eq_some_iff.1 found
  obtain ⟨-, -, -, distinct, valid⟩ := ComponentModule.topLevelNames_iff described extracted emitted
  have bound : ∀ name ∈ written.topLevelNames, Text.Alphabet.ascii.isIdentifier name = true := by
    rw [names]
    decide +kernel
  have icon : "Icon" ∈ written.topLevelNames := by simp [names]
  refine ⟨descriptor, log, model, written, described, extracted, emitted, names, distinct.1 ?_,
    fun a => ⟨a.isIdentifier_of_ascii (bound _ icon),
      ((valid a).1 fun name h => a.isIdentifier_of_ascii (bound name h)).1⟩⟩
  rw [names]
  decide

/-- Whether a module is generated for an id, with some member selected or none. -/
def Generates (d : Document) (settings : Settings) (id : NodeId) (written : ComponentModule) : Prop :=
  ∃ selected descriptor, d.module? settings id selected = some (descriptor, written)

/-- A document with a single component. -/
def onlyComponent (name : String) : Document := filed [{ id := "a", name, kind := .component }]

/-- The names of a module need not be distinct, and one of them can be empty: a component may be called like a
tag that its module imports, and its name need not have letters or numbers. -/
theorem topLevelNames_clash :
    (¬ ∀ (d : Document) (settings : Settings) (id : NodeId) (written : ComponentModule),
        d.Generates settings id written → written.topLevelNames.Nodup) ∧
      ¬ ∀ (d : Document) (settings : Settings) (id : NodeId) (written : ComponentModule),
        d.Generates settings id written → "" ∉ written.topLevelNames := by
  have named (name : String) (names : List String)
      (h : ((onlyComponent name).module? {} "a" none).map (·.2.topLevelNames) = some names) :
      ∃ written, (onlyComponent name).Generates {} "a" written ∧ written.topLevelNames = names := by
    obtain ⟨⟨descriptor, written⟩, found, names⟩ := Option.map_eq_some_iff.1 h
    exact ⟨written, ⟨none, descriptor, found⟩, names⟩
  constructor
  · intro distinct
    obtain ⟨written, generated, names⟩ :=
      named "View" ["StyleSheet", "View", "theme", "View", "styles"] (by decide +kernel)
    have nodup := distinct _ _ _ _ generated
    rw [names] at nodup
    exact absurd nodup (by decide)
  · intro nonempty
    obtain ⟨written, generated, names⟩ :=
      named "!!!" ["StyleSheet", "View", "theme", "", "styles"] (by decide +kernel)
    have absent := nonempty _ _ _ _ generated
    rw [names] at absent
    exact absurd absent (by decide)

end Document
end Handoff
