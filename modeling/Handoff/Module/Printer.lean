import Handoff.Json.Printer
import Handoff.Layout
import Handoff.Module.Component

/-!
# The text of component modules

Every part of a module has one function that writes it: as one line, or as a layout of lines and
blocks. Elements between braces are expressions, and so are elements that depend on a property; where
an element already stands inside an expression, it is written without braces of its own.
-/

namespace Handoff

/-- A text as a literal in the quotes that settings ask for. -/
def Settings.quoted (s : Settings) (text : String) : String :=
  Text.quotedString (Writer.quoteOf s.writer) text

/-- A text between braces. -/
def braced (text : String) : String := "\x7b" ++ text ++ "\x7d"

/-- A block between braces, with words before and after it. -/
def bracedBlock (before after : String) (body : List Layout) : Layout :=
  .block (before ++ "\x7b") ("\x7d" ++ after) body

namespace StyleRef

/-- The object of styles. -/
def stylesName : String := "styles"

/-- The object of class lists. -/
def classesName : String := "classes"

/-- The expression of a reference. -/
def text : StyleRef → String
  | style slug => stylesName ++ "." ++ slug
  | classes slug => classesName ++ "." ++ slug

end StyleRef

/-- The expression of a property of the component. -/
def propText (name : String) : String := "props." ++ name

/-- The line of an import. -/
def Import.text (s : Settings) : Import → String
  | default name source => "import " ++ name ++ " from " ++ s.quoted source ++ ";"
  | named names source =>
    "import " ++ braced (", ".intercalate names) ++ " from " ++ s.quoted source ++ ";"

/-- The text of a type. -/
def MemberType.text (s : Settings) : MemberType → String
  | boolean => "boolean"
  | string => "string"
  | element => "JSX.Element"
  | choice options => " | ".intercalate (options.map s.quoted)

/-- The line of an interface member. -/
def InterfaceMember.text (s : Settings) (m : InterfaceMember) : String :=
  m.name ++ (if m.isOptional then "?" else "") ++ ": " ++ m.type.text s ++ ";"

namespace Documentation

/-- A line of a description inside a comment. -/
def lineText (line : List Char) : String :=
  String.ofList (Text.trimEnd (" * ".toList ++ Text.trim line))

/-- The comment. -/
def layouts (d : Documentation) : List Layout :=
  [.line "/**"] ++ (Text.lines d.description.toList).map (.line <| lineText ·)
    ++ (d.link.toList.map fun link => .line (" * @link " ++ link)) ++ [.line " */"]

end Documentation

namespace ConditionalClass

/-- The condition under which a class applies. -/
def conditionText (s : Settings) (c : ConditionalClass) : String :=
  " && ".intercalate (c.assignments.map fun (property, value) =>
    propText (Text.propertyIdentifier property) ++ " === " ++ s.quoted value)

/-- The line of a class. -/
def text (s : Settings) (slug : String) (c : ConditionalClass) : String :=
  c.conditionText s ++ " && " ++ (StyleRef.style (VariantKey.className slug c.variantKey)).text ++ ","

end ConditionalClass

/-- The block of a class list. -/
def ClassList.layout (s : Settings) (c : ClassList) : Layout :=
  .block (c.slug ++ ": [") "],"
    (.line ((StyleRef.style c.slug).text ++ ",") :: c.conditional.map (.line <| ·.text s c.slug))

/-- The text of a style value. -/
def StyleValue.text (s : Settings) : StyleValue → String
  | number x => x.styleText
  | string word => s.quoted word
  | theme expression => expression
  | unset => s.quoted "unset"

/-- An entry of the style sheet. -/
def sheetEntryLayout (s : Settings) (e : String × StyleMap) : Layout :=
  if e.2.isEmpty then .line (e.1 ++ ": \x7b\x7d,")
  else
    bracedBlock (e.1 ++ ": ") ","
      (e.2.entries.map fun (property, value) => .line (property ++ ": " ++ value.text s ++ ","))

namespace TextContent

/-- The characters of a literal as markup. -/
def literalText (characters : String) : String :=
  if Text.needsExpression characters then braced (Json.stringText characters) else characters

/-- The content of a text element. -/
def text : TextContent → String
  | prop name => braced (propText name)
  | literal characters false => literalText characters
  | literal characters true =>
    "<" ++ Import.translateTag ++ ">" ++ literalText characters ++ "</" ++ Import.translateTag ++ ">"

end TextContent

/-- The text of an attribute value. -/
def AttributeValue.attributeText (s : Settings) : AttributeValue → String
  | bool b => braced (toString b)
  | text t => s.quoted t
  | prop name => braced (propText name)
  | element name => braced ("<" ++ name ++ "/>")

namespace Markup

/-- The attribute that refers to looks. -/
def looksText : Option StyleRef → String
  | some looks => " style=" ++ braced looks.text
  | none => ""

/-- The attribute that gives a size and the attribute that gives the content of an image. -/
def imageText (s : Settings) (width height : Binary64) (data : String) : String :=
  "<" ++ Primitive.image.tag ++ " style="
    ++ braced (braced ("width: " ++ width.styleText ++ ", height: " ++ height.styleText))
    ++ " source=" ++ braced (braced ("uri: " ++ s.quoted data)) ++ "/>"

/-- The comment in the place of an asset. -/
def missingText (name : String) : String := "/* Could not convert asset \"" ++ name ++ "\" */"

/-- The element of an instance. -/
def useText (s : Settings) (component : String) (attributes : List (String × AttributeValue)) :
    String :=
  "<" ++ component
    ++ String.join (attributes.map fun (name, value) => " " ++ name ++ "=" ++ value.attributeText s)
    ++ "/>"

/-- The element of an icon. -/
def iconText (s : Settings) (name : String) (size : Binary64) : String :=
  "<" ++ s.icons.component ++ " icon=" ++ s.quoted name ++ " size=" ++ braced size.styleText ++ "/>"

/-- An opening tag. -/
def openingText (tag : Primitive) (looks : Option StyleRef) : String :=
  "<" ++ tag.tag ++ looksText looks ++ ">"

/-- A closing tag. -/
def closingText (tag : Primitive) : String := "</" ++ tag.tag ++ ">"

mutual

/-- The layout of an element; `inExpression` says that it already stands inside an expression. -/
def layout (s : Settings) (inExpression : Bool) : Markup → Layout
  | slot prop => .line (if inExpression then propText prop else braced (propText prop))
  | image width height data => .line (imageText s width height data)
  | missing name =>
    .line (if inExpression then "null " ++ missingText name else braced (missingText name))
  | icon name size => .line (iconText s name size)
  | use component attributes => .line (useText s component attributes)
  | text tag looks content => .block (openingText tag looks) (closingText tag) [.line content.text]
  | empty tag looks => .line ("<" ++ tag.tag ++ looksText looks ++ "/>")
  | container tag looks children =>
    .block (openingText tag looks) (closingText tag) (layoutAll s children)

/-- The layouts of elements; one that depends on a property stands in an expression. -/
def layoutAll (s : Settings) : List (Option String × Markup) → List Layout
  | [] => []
  | (none, element) :: rest => layout s false element :: layoutAll s rest
  | (some prop, element) :: rest =>
    .block ("\x7b" ++ propText prop ++ " &&") "\x7d" [layout s true element] :: layoutAll s rest

end
end Markup

namespace ComponentModule

/-- The name of the interface. -/
def interfaceName (m : ComponentModule) : String := m.name ++ "Props"

/-- The interface, if the component has properties. -/
def interfaceLayouts (s : Settings) (m : ComponentModule) : List Layout :=
  if m.interface.isEmpty then []
  else
    [bracedBlock ("export interface " ++ m.interfaceName ++ " ") ""
      (m.interface.map fun member => .line (member.text s)), .blank]

/-- The parameters of the function. -/
def parameterText (m : ComponentModule) : String :=
  if m.interface.isEmpty then "" else "props: " ++ m.interfaceName

/-- The class lists, if the component needs any. -/
def classLayouts (s : Settings) (m : ComponentModule) : List Layout :=
  match m.classes with
  | none => []
  | some lists =>
    [bracedBlock ("const " ++ StyleRef.classesName ++ " = ") ";" (lists.map (·.layout s)), .blank]

/-- The element that the function returns. -/
def rootLayout (s : Settings) (m : ComponentModule) : Layout :=
  .block (Markup.openingText m.rootTag (some m.rootLooks)) (Markup.closingText m.rootTag)
    (Markup.layoutAll s m.body)

/-- The function. -/
def functionLayout (s : Settings) (m : ComponentModule) : Layout :=
  bracedBlock ("export function " ++ m.name ++ "(" ++ m.parameterText ++ ") ") ""
    (m.classLayouts s ++ [.block "return (" ");" [m.rootLayout s]])

/-- The style sheet. -/
def sheetLayout (s : Settings) (m : ComponentModule) : Layout :=
  .block ("const " ++ StyleRef.stylesName ++ " = StyleSheet.create(\x7b") "\x7d);"
    (m.sheet.map (sheetEntryLayout s))

/-- The layout of a module. -/
def layouts (s : Settings) (m : ComponentModule) : List Layout :=
  m.imports.map (fun i => .line (i.text s)) ++ [.blank]
    ++ m.interfaceLayouts s
    ++ (m.documentation.map (·.layouts)).getD []
    ++ [m.functionLayout s, .blank, m.sheetLayout s]

/-- The text of a module. -/
def text (s : Settings) (m : ComponentModule) : String := Layout.render s.writer (m.layouts s)

end ComponentModule
end Handoff
