import Handoff.Component.Descriptor
import Handoff.Module.Markup
import Handoff.Scene.PropertyOrder
import Handoff.Settings

/-!
# Component modules

A component module imports what its markup uses, declares the properties of the component, and exports
a function that returns the markup, next to the styles it refers to. A component with variants also has
class lists: for every slug whose style some variant changes, its style and then the styles of the
variants under their conditions, the last declared first.
-/

namespace Handoff

/-- An import of a module. -/
inductive Import where
  | default (name source : String)
  | named (names : List String) (source : String)
  deriving DecidableEq, Repr, Inhabited

namespace Import

/-- The tag around texts that are shown in the reader's language. -/
def translateTag : String := "Trans"

/-- The function library of the framework. -/
def framework : Import := .default "React" "react"

/-- The tag around texts, from the library that looks them up by language. -/
def localText : Import := .named [translateTag] "@lingui/macro"

/-- The style sheet, the container tag and the other primitive tags in use. -/
def primitives (used : OrderedSet Primitive) : Import :=
  .named (["StyleSheet", Primitive.container.tag]
    ++ (used.elems.filter (· ≠ .container)).map (·.tag)) "react-native"

/-- A component of the same project. -/
def component (name : String) : Import := .named [name] ("./" ++ name)

/-- The theme of the project. -/
def theme : Import := .default "theme" "./theme"

end Import

/-- The imports of a module, in the order in which they are written. -/
def Model.imports (m : Model) (s : Settings) (owner : NodeId) : List Import :=
  (if s.react.addImport then [Import.framework] else [])
    ++ (if s.react.addTranslate && m.primitives.contains .text then [Import.localText] else [])
    ++ [Import.primitives m.primitives]
    ++ (if m.icons.isEmpty then [] else [Import.named [s.icons.component] s.icons.importPath])
    ++ (m.components.entries.filter (·.1 ≠ owner)).map (Import.component ·.2)
    ++ [Import.theme]

/-- The type of a property in the interface of a component. -/
inductive MemberType where
  | boolean
  | string
  | element
  | choice (options : List String)
  deriving DecidableEq, Repr, Inhabited

/-- A member of the interface of a component. -/
structure InterfaceMember where
  name : String
  isOptional : Bool
  type : MemberType
  deriving DecidableEq, Repr, Inhabited

/-- The member that declares a property. -/
def InterfaceMember.ofDefinition (e : String × PropertyDefinition) : InterfaceMember where
  name := Text.propertyIdentifier e.1
  isOptional := e.2.kind = .boolean
  type :=
    match e.2.kind with
    | .boolean => .boolean
    | .text => .string
    | .instanceSwap => .element
    | .variant => .choice e.2.options

/-- The interface of a component. -/
def Descriptor.interface (d : Descriptor) : List InterfaceMember :=
  (PropertyOrder.declared d.properties).map InterfaceMember.ofDefinition

/-- A class under a condition: the assignments that must hold, and the variant whose style applies. -/
structure ConditionalClass where
  assignments : List (String × String)
  variantKey : String
  deriving DecidableEq, Repr, Inhabited

/-- The class list of a slug. -/
structure ClassList where
  slug : String
  conditional : List ConditionalClass
  deriving DecidableEq, Repr, Inhabited

/-- The class of a variant; its key has to assign something. -/
def ConditionalClass.ofKey (key : String) : Except CompileError ConditionalClass :=
  match VariantKey.parse key with
  | [] => .error (.unreadableVariantKey key)
  | assignments => .ok ⟨assignments, key⟩

/-- The variants that change the style of a slug, in declared order. -/
def Modifiers.effective (modifiers : Modifiers) : List (String × StyleMap) :=
  modifiers.entries.filter (!·.2.isEmpty)

/-- The class list of a slug and its modifiers. -/
def ClassList.ofModifiers (e : String × Modifiers) : Except CompileError ClassList := do
  let conditional ← (e.2.effective.reverse.map Prod.fst).mapM ConditionalClass.ofKey
  return ⟨e.1, conditional⟩

/-- The class lists of a model, without those that have no conditional class. -/
def Model.classLists (m : Model) : Except CompileError (List ClassList) := do
  let lists ← m.variants.entries.mapM ClassList.ofModifiers
  return lists.filter (!·.conditional.isEmpty)

/-- The style sheet of a model: each slug's style, and after it those of its variants. -/
def Model.sheet (m : Model) : List (String × StyleMap) :=
  m.styles.entries.flatMap fun e =>
    e :: (((m.variants.get? e.1).getD .empty).effective.map fun v =>
      (VariantKey.className e.1 v.1, v.2))

/-- What documents a component: a description, which must not be blank, and a link. -/
structure Documentation where
  description : String
  link : Option String
  deriving DecidableEq, Repr, Inhabited

/-- What documents a described component, if anything does. -/
def Descriptor.documentation (d : Descriptor) : Option Documentation :=
  if (Text.trimString d.description).isEmpty then none
  else some ⟨d.description, d.documentationLinks.head?⟩

/-- The module of a component. -/
structure ComponentModule where
  imports : List Import
  name : String
  interface : List InterfaceMember
  documentation : Option Documentation
  classes : Option (List ClassList)
  rootTag : Primitive
  rootLooks : StyleRef
  body : List (Option String × Markup)
  sheet : List (String × StyleMap)

namespace ComponentModule

/-- Whether a component needs class lists. -/
def needsClasses (d : Descriptor) (m : Model) : Bool := d.isVariant && !m.variants.isEmpty

/-- The class lists of a component, if it needs any. -/
def classesOf (d : Descriptor) (m : Model) : Except CompileError (Option (List ClassList)) :=
  if needsClasses d m then m.classLists.map some else .ok none

/-- The module of a described component. -/
def ofModel (s : Settings) (d : Descriptor) (m : Model) : Except CompileError ComponentModule := do
  let classes ← classesOf d m
  return {
    imports := m.imports s d.id
    name := d.name
    interface := d.interface
    documentation := d.documentation
    classes
    rootTag := m.root.tag
    rootLooks := m.looksOf rootSlug
    body := m.markupAll s.react.addTranslate m.tree
    sheet := m.sheet }

/-- A module that can be written has the class lists of the component; its other parts are those of the
description and of the model. -/
theorem exists_of_ofModel {s : Settings} {d : Descriptor} {m : Model} {written : ComponentModule}
    (h : ofModel s d m = .ok written) :
    ∃ classes, classesOf d m = .ok classes ∧
      written = {
        imports := m.imports s d.id
        name := d.name
        interface := d.interface
        documentation := d.documentation
        classes
        rootTag := m.root.tag
        rootLooks := m.looksOf rootSlug
        body := m.markupAll s.react.addTranslate m.tree
        sheet := m.sheet } := by
  unfold ofModel at h
  cases hc : classesOf d m with
  | error e =>
    rw [hc] at h
    cases h
  | ok classes =>
    rw [hc] at h
    cases h
    exact ⟨classes, rfl, rfl⟩

/-- The style sheet of a written module is that of the model. -/
theorem sheet_of_ofModel {s : Settings} {d : Descriptor} {m : Model} {written : ComponentModule}
    (h : ofModel s d m = .ok written) : written.sheet = m.sheet := by
  obtain ⟨_, -, rfl⟩ := exists_of_ofModel h
  rfl

end ComponentModule
end Handoff
