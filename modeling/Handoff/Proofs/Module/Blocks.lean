import Handoff.Proofs.Module.Pieces
import Mathlib.Data.List.Forall2

/-!
# Declarations in written modules

What a module declares stands in blocks, which are told apart by the lines that open and close them. So the members
of the interface, the class lists and the entries of the style sheet can be read off from what is written, and not
only from the parts that it is written from.
-/

namespace Handoff

namespace Layout

/-- The body of the first block with an opening and a closing line. -/
def body? (opening closing : String) : List Layout → Option (List Layout)
  | [] => none
  | line _ :: rest => body? opening closing rest
  | blank :: rest => body? opening closing rest
  | block o c body :: rest => if o = opening ∧ c = closing then some body else body? opening closing rest

section

variable {opening closing o c : String} {body rest : List Layout}

@[simp] theorem body?_nil : body? opening closing [] = none := rfl

@[simp] theorem body?_line (text : String) : body? opening closing (line text :: rest) = body? opening closing rest :=
  rfl

@[simp] theorem body?_blank : body? opening closing (blank :: rest) = body? opening closing rest := rfl

/-- A block is found under its own lines. -/
theorem body?_block_self : body? opening closing (block opening closing body :: rest) = some body := by simp [body?]

/-- A block is passed if it opens with another line. -/
theorem body?_block_of_ne (h : o ≠ opening) :
    body? opening closing (block o c body :: rest) = body? opening closing rest := by simp [body?, h]

/-- A block is found among the first layouts or among the others. -/
@[simp] theorem body?_append (a b : List Layout) :
    body? opening closing (a ++ b) = (body? opening closing a).or (body? opening closing b) := by
  induction a with
  | nil => rfl
  | cons layout rest ih =>
    cases layout with
    | line => exact ih
    | blank => exact ih
    | block o c body =>
      rw [List.cons_append, body?, body?]
      split
      · rfl
      · exact ih

/-- No block is found among lines. -/
@[simp] theorem body?_map_line {α : Type} (text : α → String) (l : List α) :
    body? opening closing (l.map (.line <| text ·)) = none := by
  induction l with
  | nil => rfl
  | cons a rest ih => exact ih

end

/-- The line that gives a property a value. -/
def styleLine (s : Settings) (property : String) : StyleValue → Layout
  | .number x => line (property ++ ": " ++ x.styleText ++ ",")
  | .string word => line (property ++ ": " ++ s.quoted word ++ ",")
  | .theme expression => line (property ++ ": " ++ expression ++ ",")
  | .unset => line (property ++ ": " ++ s.quoted "unset" ++ ",")

/-- What stands for a style in a style sheet: an object with a line for each property, or an empty one. -/
inductive IsEntry (s : Settings) (name : String) (style : StyleMap) : Layout → Prop
  | empty : style.entries = [] → IsEntry s name style (line (name ++ ": \x7b\x7d,"))
  | object : style.entries ≠ [] → IsEntry s name style (block (name ++ ": \x7b") "\x7d,"
      (style.entries.map fun (property, value) => styleLine s property value))

/-- What declares a property in an interface: a line with its name and its type. -/
inductive IsMember (name : String) : Layout → Prop
  | required (type : String) : IsMember name (line (name ++ ": " ++ type ++ ";"))
  | optional (type : String) : IsMember name (line (name ++ "?: " ++ type ++ ";"))

end Layout

namespace ComponentModule

/-- Whether a text is that of a module: its layouts line by line, and every line in the pieces of the module. -/
structure Spells (s : Settings) (m : ComponentModule) (text : String) : Prop where
  layouts : Layout.Spell s.writer (m.layouts s) text
  pieces : Piece.joinAll s (m.pieces s) = Layout.linesAll 0 (m.layouts s)

/-- The text of a module is spelled by it. -/
theorem spells_text (s : Settings) (m : ComponentModule) : m.Spells s (m.text s) :=
  ⟨Layout.spell_render s.writer _, m.joinAll_pieces s⟩

/-! ## Reading declarations -/

/-- The parameters of a function that takes properties. -/
def propsParameter (m : ComponentModule) : String := "props: " ++ m.name ++ "Props"

/-- The body of the function with given parameters. -/
def functionBodyOf? (s : Settings) (m : ComponentModule) (parameters : String) : Option (List Layout) :=
  Layout.body? ("export function " ++ m.name ++ "(" ++ parameters ++ ") \x7b") "\x7d" (m.layouts s)

/-- The body of the function, with properties or without. -/
def functionBody? (s : Settings) (m : ComponentModule) : Option (List Layout) :=
  (m.functionBodyOf? s "").or (m.functionBodyOf? s m.propsParameter)

/-- The members of the interface. -/
def interfaceBody? (s : Settings) (m : ComponentModule) : Option (List Layout) :=
  Layout.body? ("export interface " ++ m.name ++ "Props \x7b") "\x7d" (m.layouts s)

/-- The object of class lists. -/
def classesBody? (s : Settings) (m : ComponentModule) : Option (List Layout) :=
  (m.functionBody? s).bind (Layout.body? "const classes = \x7b" "\x7d;")

/-- The lines of the class list of a slug. -/
def classLines? (s : Settings) (m : ComponentModule) (slug : String) : Option (List Layout) :=
  (m.classesBody? s).bind (Layout.body? (slug ++ ": [") "],")

/-- The entries of the style sheet. -/
def sheetBody? (s : Settings) (m : ComponentModule) : Option (List Layout) :=
  Layout.body? "const styles = StyleSheet.create(\x7b" "\x7d);" (m.layouts s)

/-- Whether the style sheet that is written has styles under their names. -/
def HasSheet (s : Settings) (m : ComponentModule) (entries : List (String × StyleMap)) : Prop :=
  ∃ body, m.sheetBody? s = some body ∧ List.Forall₂ (fun e => Layout.IsEntry s e.1 e.2) entries body

end ComponentModule

/-! ## What is read -/

/-- The line of a member declares it. -/
theorem InterfaceMember.isMember_text (s : Settings) (member : InterfaceMember) :
    (Layout.line (member.text s)).IsMember member.name := by
  unfold InterfaceMember.text
  split
  · have marked : member.name ++ "?" ++ ": " = member.name ++ "?: " := String.append_assoc
    rw [marked]
    exact .optional _
  · rw [String.append_empty]
    exact .required _

namespace ComponentModule

variable {s : Settings} {m : ComponentModule}

private theorem body?_documentation (opening closing : String) (documentation : Option Documentation) :
    Layout.body? opening closing ((documentation.map (·.layouts)).getD []) = none := by
  cases documentation with
  | none => rfl
  | some d => simp [Documentation.layouts]

/-- Lines that begin differently are different. -/
private theorem append_ne_append {a b : String} (other : ¬ a.toList <+: b.toList) (longer : ¬ b.toList <+: a.toList)
    (x y : String) : a ++ x ≠ b ++ y := by
  intro same
  have whole := congrArg String.toList same
  rw [String.toList_append, String.toList_append] at whole
  exact (List.prefix_or_prefix_of_prefix (List.prefix_append _ _) (whole ▸ List.prefix_append _ _)).elim longer other

private theorem body?_interfaceLayouts {opening closing : String}
    (h : "export interface " ++ m.interfaceName ++ " \x7b" ≠ opening) :
    Layout.body? opening closing (m.interfaceLayouts s) = none := by
  unfold interfaceLayouts
  split
  · rfl
  · rw [bracedBlock, Layout.body?_block_of_ne]
    · rfl
    · rwa [String.append_assoc]

/-- The function is read under its own parameters only. -/
theorem functionBodyOf?_eq (parameters : String) : m.functionBodyOf? s parameters =
    if m.parameterText = parameters then some (m.classLayouts s ++ [.block "return (" ");" [m.rootLayout s]])
    else none := by
  have interface : "export interface " ++ m.interfaceName ++ " \x7b" ≠
      "export function " ++ m.name ++ "(" ++ parameters ++ ") \x7b" := by
    simp only [String.append_assoc]
    exact append_ne_append (by decide) (by decide) _ _
  have sheet : "const styles = StyleSheet.create(\x7b" ≠
      "export function " ++ m.name ++ "(" ++ parameters ++ ") \x7b" := by
    simp only [String.append_assoc]
    exact append_ne_append (a := "const") (by decide) (by decide) " styles = StyleSheet.create(\x7b" _
  have own : "export function " ++ m.name ++ "(" ++ m.parameterText ++ ") " ++ "\x7b" =
      "export function " ++ m.name ++ "(" ++ parameters ++ ") \x7b" ↔ m.parameterText = parameters := by
    simp [← String.toList_inj]
  have function : Layout.body? ("export function " ++ m.name ++ "(" ++ parameters ++ ") \x7b") "\x7d"
      [m.functionLayout s, .blank, m.sheetLayout s] = if m.parameterText = parameters
        then some (m.classLayouts s ++ [.block "return (" ");" [m.rootLayout s]]) else none := by
    rw [functionLayout, bracedBlock]
    split
    · next same =>
      rw [own.2 same]
      exact Layout.body?_block_self
    · next differs =>
      rw [Layout.body?_block_of_ne (mt own.1 differs), Layout.body?_blank]
      exact Layout.body?_block_of_ne sheet
  rw [functionBodyOf?, layouts]
  simp [body?_documentation, body?_interfaceLayouts interface, function]

theorem parameterText_eq (m : ComponentModule) :
    m.parameterText = if m.interface.isEmpty then "" else m.propsParameter := by
  unfold parameterText propsParameter interfaceName
  split
  · rfl
  · rw [String.append_assoc]

/-- The function takes properties if there are any. -/
theorem functionBodyOf?_propsParameter (nonempty : m.interface ≠ []) : m.functionBodyOf? s m.propsParameter =
    some (m.classLayouts s ++ [.block "return (" ");" [m.rootLayout s]]) := by
  have parameters : m.parameterText = m.propsParameter := by
    rw [parameterText_eq, if_neg (by simpa using nonempty)]
  rw [functionBodyOf?_eq, if_pos parameters]

/-- The function is always read. -/
theorem functionBody?_eq :
    m.functionBody? s = some (m.classLayouts s ++ [.block "return (" ");" [m.rootLayout s]]) := by
  unfold functionBody?
  rw [functionBodyOf?_eq, functionBodyOf?_eq, parameterText_eq]
  cases m.interface.isEmpty with
  | true => rfl
  | false =>
    rw [if_neg Bool.false_ne_true, if_pos rfl]
    split <;> rfl

/-- The interface is read if there are properties. -/
theorem interfaceBody?_eq (nonempty : m.interface ≠ []) :
    m.interfaceBody? s = some (m.interface.map fun member => .line (member.text s)) := by
  have opening : "export interface " ++ m.interfaceName ++ " " ++ "\x7b" =
      "export interface " ++ m.name ++ "Props \x7b" := by
    simp [interfaceName, ← String.toList_inj]
  have interface : Layout.body? ("export interface " ++ m.name ++ "Props \x7b") "\x7d" (m.interfaceLayouts s) =
      some (m.interface.map fun member => .line (member.text s)) := by
    rw [interfaceLayouts, if_neg (by simpa using nonempty), bracedBlock, opening]
    exact Layout.body?_block_self
  rw [interfaceBody?, layouts]
  simp [interface]

/-- The object of class lists is read if the component needs any. -/
theorem classesBody?_eq : m.classesBody? s = m.classes.map fun lists => lists.map (·.layout s) := by
  rw [classesBody?, functionBody?_eq, Option.bind_some, classLayouts]
  cases m.classes with
  | none => exact Layout.body?_block_of_ne (by decide)
  | some lists => exact Layout.body?_block_self

private theorem body?_classList (slug : String) (lists : List ClassList) :
    Layout.body? (slug ++ ": [") "]," (lists.map (·.layout s)) = (lists.find? (·.slug == slug)).map fun c =>
      .line ((StyleRef.style c.slug).text ++ ",") :: c.conditional.map (.line <| ·.text s c.slug) := by
  induction lists with
  | nil => rfl
  | cons c rest ih =>
    by_cases same : c.slug = slug
    · rw [List.map_cons, ClassList.layout, same, Layout.body?_block_self, List.find?_cons_of_pos (by simp [same]),
        Option.map_some, same]
    · have differs : c.slug ++ ": [" ≠ slug ++ ": [" := by simpa [← String.toList_inj] using same
      rw [List.map_cons, ClassList.layout, Layout.body?_block_of_ne differs, ih,
        List.find?_cons_of_neg (by simpa using same)]

/-- The class list of a slug is read if there is one. -/
theorem classLines?_eq (slug : String) :
    m.classLines? s slug = ((m.classes.getD []).find? (·.slug == slug)).map fun c =>
      .line ((StyleRef.style c.slug).text ++ ",") :: c.conditional.map (.line <| ·.text s c.slug) := by
  rw [classLines?, classesBody?_eq]
  cases m.classes with
  | none => rfl
  | some lists => exact body?_classList slug lists

/-- The style sheet is always read. -/
theorem sheetBody?_eq : m.sheetBody? s = some (m.sheet.map (sheetEntryLayout s)) := by
  have interface : "export interface " ++ m.interfaceName ++ " \x7b" ≠ "const styles = StyleSheet.create(\x7b" := by
    rw [String.append_assoc]
    exact append_ne_append (b := "const") (by decide) (by decide) _ " styles = StyleSheet.create(\x7b"
  have function : "export function " ++ m.name ++ "(" ++ m.parameterText ++ ") " ++ "\x7b" ≠
      "const styles = StyleSheet.create(\x7b" := by
    simp only [String.append_assoc]
    exact append_ne_append (b := "const") (by decide) (by decide) _ " styles = StyleSheet.create(\x7b"
  have sheet : Layout.body? "const styles = StyleSheet.create(\x7b" "\x7d);"
      [m.functionLayout s, .blank, m.sheetLayout s] = some (m.sheet.map (sheetEntryLayout s)) := by
    rw [functionLayout, bracedBlock, Layout.body?_block_of_ne function, Layout.body?_blank]
    exact Layout.body?_block_self
  rw [sheetBody?, layouts]
  simp [body?_documentation, body?_interfaceLayouts interface, sheet]

private theorem isEntry_sheetEntryLayout (e : String × StyleMap) : (sheetEntryLayout s e).IsEntry s e.1 e.2 := by
  unfold sheetEntryLayout
  split
  · next none => exact .empty (List.isEmpty_iff.1 none)
  · next some =>
    have opening : e.1 ++ ": " ++ "\x7b" = e.1 ++ ": \x7b" := by
      rw [String.append_assoc]
      rfl
    have lines : (e.2.entries.map fun (property, value) => Layout.line (property ++ ": " ++ value.text s ++ ",")) =
        e.2.entries.map fun (property, value) => Layout.styleLine s property value := by
      refine List.map_congr_left fun ⟨property, value⟩ _ => ?_
      cases value <;> rfl
    rw [bracedBlock, opening, lines]
    exact .object (by simpa [OrderedMap.isEmpty] using some)

/-- The styles of a module are written as its style sheet. -/
theorem hasSheet (s : Settings) (m : ComponentModule) : m.HasSheet s m.sheet := by
  refine ⟨_, sheetBody?_eq, ?_⟩
  rw [List.forall₂_map_right_iff]
  exact List.forall₂_same.2 fun e _ => isEntry_sheetEntryLayout e

end ComponentModule
end Handoff
