import Handoff.Proofs.Module.Written

/-!
# Names in written lines

A module names tags, the looks of slugs and properties of its component. Each line of a module is made of such
names and of other characters, which name nothing of the kind. So the names that a module uses can be read off
from what is written, and not only from the parts that it is written from.
-/

namespace Handoff

/-- A tag in markup. -/
inductive Tag where
  | primitive (p : Primitive)
  /-- The tag around a text that is translated. -/
  | translation
  | icon
  | component (name : String)
  deriving DecidableEq, Repr

/-- The name of a tag. -/
def Tag.name (s : Settings) : Tag → String
  | primitive p => p.tag
  | translation => "Trans"
  | icon => s.icons.component
  | component name => name

/-- A piece of a line: a name that is used, or other characters. -/
inductive Piece where
  | plain (text : String)
  /-- The name of a tag that is opened. -/
  | tag (tag : Tag)
  | looks (looks : StyleRef)
  | prop (name : String)
  deriving DecidableEq, Repr

namespace Piece

/-- The characters of a piece. -/
def text (s : Settings) : Piece → String
  | plain text => text
  | tag t => t.name s
  | looks (.style name) => "styles." ++ name
  | looks (.classes slug) => "classes." ++ slug
  | prop name => "props." ++ name

/-- The characters of pieces, one after the other. -/
def join (s : Settings) (pieces : List Piece) : String := String.join (pieces.map (·.text s))

/-- Lines in pieces as lines of characters. -/
def joinAll (s : Settings) (lines : List (Nat × List Piece)) : List (Nat × String) :=
  lines.map fun line => (line.1, join s line.2)

/-- Whether a piece is a name. -/
def isName : Piece → Bool
  | plain _ => false
  | tag _ | looks _ | prop _ => true

/-- The names in the pieces of lines. -/
def names (lines : List (Nat × List Piece)) : List Piece := lines.flatMap (·.2.filter (·.isName))

end Piece

/-! ## The pieces of markup -/

open Piece (plain)

namespace Markup

/-- The attribute that refers to looks. -/
def looksPieces : Option StyleRef → List Piece
  | some looks => [plain " style=\x7b", .looks looks, plain "\x7d"]
  | none => []

/-- An opening tag. -/
def openingPieces (tag : Primitive) (looks : Option StyleRef) : List Piece :=
  plain "<" :: .tag (.primitive tag) :: looksPieces looks ++ [plain ">"]

/-- The content of a text element. -/
def contentPieces : TextContent → List Piece
  | .prop name => [plain "\x7b", .prop name, plain "\x7d"]
  | .literal characters false => [plain (TextContent.literalText characters)]
  | .literal characters true =>
    [plain "<", .tag .translation, plain (">" ++ TextContent.literalText characters ++ "</Trans>")]

/-- An attribute of an instance. -/
def attributePieces (s : Settings) : String × AttributeValue → List Piece
  | (name, .bool b) => [plain (" " ++ name ++ "=" ++ braced (toString b))]
  | (name, .text t) => [plain (" " ++ name ++ "=" ++ s.quoted t)]
  | (name, .prop p) => [plain (" " ++ name ++ "=\x7b"), .prop p, plain "\x7d"]
  | (name, .element e) => [plain (" " ++ name ++ "=\x7b<"), .tag (.component e), plain "/>\x7d"]

mutual

/-- The lines of an element. -/
def pieces (s : Settings) (depth : Nat) (inExpression : Bool) : Markup → List (Nat × List Piece)
  | slot prop => [(depth, if inExpression then [.prop prop] else [plain "\x7b", .prop prop, plain "\x7d"])]
  | image width height data =>
    [(depth, [plain "<", .tag (.primitive .image),
      plain (" style=" ++ braced (braced ("width: " ++ width.styleText ++ ", height: " ++ height.styleText))
        ++ " source=" ++ braced (braced ("uri: " ++ s.quoted data)) ++ "/>")])]
  | missing name =>
    [(depth, [plain (if inExpression then "null " ++ missingText name else braced (missingText name))])]
  | icon name size =>
    [(depth, [plain "<", .tag .icon,
      plain (" icon=" ++ s.quoted name ++ " size=" ++ braced size.styleText ++ "/>")])]
  | use component attributes =>
    [(depth, plain "<" :: .tag (.component component) :: attributes.flatMap (attributePieces s) ++ [plain "/>"])]
  | text tag looks content =>
    [(depth, openingPieces tag looks), (depth + 1, contentPieces content), (depth, [plain (closingText tag)])]
  | empty tag looks => [(depth, plain "<" :: .tag (.primitive tag) :: looksPieces looks ++ [plain "/>"])]
  | container tag looks children =>
    (depth, openingPieces tag looks) :: piecesAll s (depth + 1) children ++ [(depth, [plain (closingText tag)])]

/-- The lines of elements. -/
def piecesAll (s : Settings) (depth : Nat) : List (Option String × Markup) → List (Nat × List Piece)
  | [] => []
  | (none, element) :: rest => pieces s depth false element ++ piecesAll s depth rest
  | (some prop, element) :: rest =>
    (depth, [plain "\x7b", .prop prop, plain " &&"]) :: pieces s (depth + 1) true element
      ++ (depth, [plain "\x7d"]) :: piecesAll s depth rest

end

end Markup

/-! ## The pieces of modules -/

namespace ClassList

/-- The line of a conditional class. -/
def classPieces (s : Settings) (slug : String) (c : ConditionalClass) : List Piece :=
  [plain " && "].intercalate (c.assignments.map fun (property, value) =>
      [.prop (Text.propertyIdentifier property), plain (" === " ++ s.quoted value)])
    ++ [plain " && ", .looks (.style (VariantKey.className slug c.variantKey)), plain ","]

/-- The lines of a class list. -/
def pieces (s : Settings) (depth : Nat) (c : ClassList) : List (Nat × List Piece) :=
  (depth, [plain (c.slug ++ ": [")]) :: (depth + 1, [.looks (.style c.slug), plain ","])
    :: c.conditional.map (fun k => (depth + 1, classPieces s c.slug k)) ++ [(depth, [plain "],"])]

end ClassList

/-- Lines that use no names. -/
def plainLines (depth : Nat) (layouts : List Layout) : List (Nat × List Piece) :=
  (Layout.linesAll depth layouts).map fun line => (line.1, [plain line.2])

namespace ComponentModule

/-- The lines of the class lists, if the component needs any. -/
def classPieces (s : Settings) (m : ComponentModule) : List (Nat × List Piece) :=
  match m.classes with
  | none => []
  | some lists =>
    (1, [plain "const classes = \x7b"]) :: lists.flatMap (·.pieces s 2) ++ [(1, [plain "\x7d;"]), (1, [plain ""])]

/-- The lines of a module. -/
def pieces (s : Settings) (m : ComponentModule) : List (Nat × List Piece) :=
  plainLines 0 (m.imports.map (fun i => .line (i.text s)) ++ [.blank] ++ m.interfaceLayouts s
      ++ (m.documentation.map (·.layouts)).getD [])
    ++ (0, [plain ("export function " ++ m.name ++ "(" ++ m.parameterText ++ ") \x7b")])
    :: m.classPieces s
    ++ [(1, [plain "return ("]), (2, Markup.openingPieces m.rootTag (some m.rootLooks))]
    ++ Markup.piecesAll s 3 m.body
    ++ [(2, [plain (Markup.closingText m.rootTag)]), (1, [plain ");"]), (0, [plain "\x7d"])]
    ++ plainLines 0 [.blank, m.sheetLayout s]

end ComponentModule

/-! ## The names in pieces -/

/-- The names that the content of a text element uses. -/
def TextContent.uses : TextContent → List Piece
  | prop name => [.prop name]
  | literal _ false => []
  | literal _ true => [.tag .translation]

/-- The names that an attribute uses. -/
def AttributeValue.uses : AttributeValue → List Piece
  | prop name => [.prop name]
  | element name => [.tag (.component name)]
  | bool _ | text _ => []

namespace Markup

mutual

/-- The names that an element and the elements in it use. -/
def uses : Markup → List Piece
  | slot prop => [.prop prop]
  | image _ _ _ => [.tag (.primitive .image)]
  | missing _ => []
  | icon _ _ => [.tag .icon]
  | use component attributes => .tag (.component component) :: attributes.flatMap (·.2.uses)
  | text tag looks content => .tag (.primitive tag) :: looks.toList.map .looks ++ content.uses
  | empty tag looks => .tag (.primitive tag) :: looks.toList.map .looks
  | container tag looks children => .tag (.primitive tag) :: looks.toList.map .looks ++ usesAll children

/-- The names that elements use, with the properties that show or hide them. -/
def usesAll : List (Option String × Markup) → List Piece
  | [] => []
  | (condition, element) :: rest => condition.toList.map .prop ++ uses element ++ usesAll rest

end
end Markup

/-- The names in a class list: the style of the slug, and the properties and the style of each conditional class. -/
def ClassList.uses (c : ClassList) : List Piece :=
  .looks (.style c.slug) :: c.conditional.flatMap fun k =>
    k.assignments.map (fun a => .prop (Text.propertyIdentifier a.1))
      ++ [.looks (.style (VariantKey.className c.slug k.variantKey))]

/-- The names that a module uses: in its class lists, in its root tag, and in the elements below. -/
def ComponentModule.uses (m : ComponentModule) : List Piece :=
  (m.classes.getD []).flatMap (·.uses)
    ++ .tag (.primitive m.rootTag) :: .looks m.rootLooks :: Markup.usesAll m.body

/-! ## Their lines -/

namespace Piece

variable {s : Settings}

@[simp] theorem join_nil : join s [] = "" := rfl

@[simp] theorem join_cons (piece : Piece) (rest : List Piece) :
    join s (piece :: rest) = piece.text s ++ join s rest := by simp [join]

@[simp] theorem join_append (a b : List Piece) : join s (a ++ b) = join s a ++ join s b := by simp [join]

/-- Pieces with others between them are written as texts with another between them. -/
theorem join_intercalate (between : List Piece) (parts : List (List Piece)) :
    join s (between.intercalate parts) = (join s between).intercalate (parts.map (join s)) := by
  induction parts with
  | nil => rfl
  | cons part rest ih =>
    cases rest with
    | nil => simp [List.intercalate]
    | cons next rest =>
      simp only [List.map_cons] at ih ⊢
      rw [List.intercalate_cons_cons, join_append, join_append, ih, String.intercalate_cons_cons]

@[simp] theorem joinAll_nil : joinAll s [] = [] := rfl

@[simp] theorem joinAll_cons (line : Nat × List Piece) (rest : List (Nat × List Piece)) :
    joinAll s (line :: rest) = (line.1, join s line.2) :: joinAll s rest := rfl

@[simp] theorem joinAll_append (a b : List (Nat × List Piece)) :
    joinAll s (a ++ b) = joinAll s a ++ joinAll s b := List.map_append

@[simp] theorem names_nil : names [] = [] := rfl

@[simp] theorem names_cons (line : Nat × List Piece) (rest : List (Nat × List Piece)) :
    names (line :: rest) = line.2.filter (·.isName) ++ names rest := rfl

@[simp] theorem names_append (a b : List (Nat × List Piece)) : names (a ++ b) = names a ++ names b :=
  List.flatMap_append

@[simp] theorem isName_plain (text : String) : (plain text).isName = false := rfl

@[simp] theorem isName_tag (t : Tag) : (tag t).isName = true := rfl

@[simp] theorem isName_looks (r : StyleRef) : (looks r).isName = true := rfl

@[simp] theorem isName_prop (name : String) : (prop name).isName = true := rfl

end Piece

section

open Piece (join joinAll join_intercalate)

variable {s : Settings}

namespace Markup

private theorem join_looksPieces (looks : Option StyleRef) : join s (looksPieces looks) = looksText looks := by
  rcases looks with _ | slug | slug <;>
    simp [← String.toList_inj, looksPieces, looksText, Piece.text, braced, StyleRef.text, StyleRef.stylesName,
      StyleRef.classesName]

private theorem join_openingPieces (tag : Primitive) (looks : Option StyleRef) :
    join s (openingPieces tag looks) = openingText tag looks := by
  simp [openingPieces, openingText, join_looksPieces, Piece.text, Tag.name, String.append_assoc]

private theorem join_contentPieces (content : TextContent) : join s (contentPieces content) = content.text := by
  rcases content with name | ⟨characters, _ | _⟩ <;>
    simp [← String.toList_inj, contentPieces, TextContent.text, Piece.text, Tag.name, Import.translateTag, propText,
      braced]

private theorem join_attributePieces (attributes : List (String × AttributeValue)) :
    join s (attributes.flatMap (attributePieces s)) =
      String.join (attributes.map fun (name, value) => " " ++ name ++ "=" ++ value.attributeText s) := by
  induction attributes with
  | nil => rfl
  | cons given rest ih =>
    obtain ⟨name, value⟩ := given
    rw [List.flatMap_cons, Piece.join_append, ih, List.map_cons, String.join_cons]
    cases value <;>
      simp [← String.toList_inj, attributePieces, AttributeValue.attributeText, Piece.text, Tag.name, propText, braced]

mutual

/-- The lines of an element in pieces are those of its layout. -/
theorem joinAll_pieces (depth : Nat) (inExpression : Bool) : ∀ element : Markup,
    joinAll s (pieces s depth inExpression element) = Layout.lines depth (layout s inExpression element)
  | slot prop => by
    cases inExpression <;> simp [pieces, layout, Layout.lines, Piece.text, propText, braced, String.append_assoc]
  | image width height data => by
    simp [pieces, layout, Layout.lines, Piece.text, Tag.name, imageText, String.append_assoc]
  | missing name => by simp [pieces, layout, Layout.lines, Piece.text]
  | icon name size => by
    simp [pieces, layout, Layout.lines, Piece.text, Tag.name, iconText, String.append_assoc]
  | use component attributes => by
    simp [pieces, layout, Layout.lines, Piece.text, Tag.name, useText, join_attributePieces, String.append_assoc]
  | text tag looks content => by
    simp [pieces, layout, Layout.lines, Layout.linesAll, Piece.text, join_openingPieces, join_contentPieces]
  | empty tag looks => by
    simp [pieces, layout, Layout.lines, Piece.text, Tag.name, join_looksPieces, String.append_assoc]
  | container tag looks children => by
    simp [pieces, layout, Layout.lines, Piece.text, join_openingPieces, joinAll_piecesAll]

/-- The lines of elements in pieces are those of their layouts. -/
theorem joinAll_piecesAll (depth : Nat) : ∀ elements : List (Option String × Markup),
    joinAll s (piecesAll s depth elements) = Layout.linesAll depth (layoutAll s elements)
  | [] => rfl
  | (none, element) :: rest => by
    simp [piecesAll, layoutAll, Layout.linesAll, joinAll_pieces, joinAll_piecesAll]
  | (some prop, element) :: rest => by
    simp [piecesAll, layoutAll, Layout.linesAll, Layout.lines, joinAll_pieces, joinAll_piecesAll, Piece.text, propText,
      String.append_assoc]

end

end Markup

private theorem joinAll_plainLines (depth : Nat) (layouts : List Layout) :
    joinAll s (plainLines depth layouts) = Layout.linesAll depth layouts := by
  simp [joinAll, plainLines, Piece.text, Function.comp_def]

private theorem linesAll_map_line {α : Type} (depth : Nat) (text : α → String) (l : List α) :
    Layout.linesAll depth (l.map (.line <| text ·)) = l.map fun a => (depth, text a) := by
  induction l with
  | nil => rfl
  | cons a rest ih => rw [List.map_cons, Layout.linesAll, ih, Layout.lines, List.singleton_append, List.map_cons]

private theorem join_classPieces (slug : String) (c : ConditionalClass) :
    join s (ClassList.classPieces s slug c) = c.text s slug := by
  have condition : (c.assignments.map fun (property, value) =>
        [.prop (Text.propertyIdentifier property), Piece.plain (" === " ++ s.quoted value)]).map (join s) =
      c.assignments.map fun (property, value) =>
        propText (Text.propertyIdentifier property) ++ " === " ++ s.quoted value := by
    simp [Piece.text, propText, String.append_assoc]
  rw [ClassList.classPieces, Piece.join_append, join_intercalate, condition]
  simp [ConditionalClass.text, ConditionalClass.conditionText, Piece.text, StyleRef.text, StyleRef.stylesName,
    String.append_assoc]

private theorem ClassList.joinAll_pieces (depth : Nat) (c : ClassList) :
    joinAll s (c.pieces s depth) = Layout.lines depth (c.layout s) := by
  have classes : joinAll s (c.conditional.map fun k => (depth + 1, classPieces s c.slug k)) =
      Layout.linesAll (depth + 1) (c.conditional.map (.line <| ·.text s c.slug)) := by
    rw [linesAll_map_line, joinAll, List.map_map]
    exact List.map_congr_left fun k _ => by simp [join_classPieces]
  simp [ClassList.pieces, ClassList.layout, Layout.lines, Layout.linesAll, classes, Piece.text, StyleRef.text,
    StyleRef.stylesName]

private theorem joinAll_classLists (lists : List ClassList) :
    joinAll s (lists.flatMap (·.pieces s 2)) = Layout.linesAll 2 (lists.map (·.layout s)) := by
  induction lists with
  | nil => rfl
  | cons c rest ih =>
    rw [List.flatMap_cons, Piece.joinAll_append, ih, ClassList.joinAll_pieces, List.map_cons, Layout.linesAll]

private theorem ComponentModule.joinAll_classPieces (m : ComponentModule) :
    joinAll s (m.classPieces s) = Layout.linesAll 1 (m.classLayouts s) := by
  unfold classPieces classLayouts
  cases m.classes with
  | none => rfl
  | some lists =>
    simp [joinAll_classLists, bracedBlock, Layout.linesAll, Layout.lines, Piece.text, StyleRef.classesName]

/-- The lines of a module in pieces are those of its layouts. -/
theorem ComponentModule.joinAll_pieces (s : Settings) (m : ComponentModule) :
    joinAll s (m.pieces s) = Layout.linesAll 0 (m.layouts s) := by
  simp [pieces, layouts, joinAll_plainLines, joinAll_classPieces, Markup.joinAll_piecesAll, functionLayout, rootLayout,
    bracedBlock, Layout.linesAll, Layout.lines, Piece.text, Markup.join_openingPieces, ← String.toList_inj]

/-! ## Their names -/

namespace Markup

private theorem filter_openingPieces (tag : Primitive) (looks : Option StyleRef) :
    (openingPieces tag looks).filter (·.isName) = .tag (.primitive tag) :: looks.toList.map .looks := by
  cases looks <;> rfl

private theorem filter_contentPieces (content : TextContent) :
    (contentPieces content).filter (·.isName) = content.uses := by
  rcases content with name | ⟨characters, _ | _⟩ <;> rfl

private theorem filter_attributePieces (attributes : List (String × AttributeValue)) :
    (attributes.flatMap (attributePieces s)).filter (·.isName) = attributes.flatMap (·.2.uses) := by
  induction attributes with
  | nil => rfl
  | cons given rest ih =>
    obtain ⟨name, value⟩ := given
    rw [List.flatMap_cons, List.filter_append, ih]
    cases value <;> rfl

mutual

/-- The names in the lines of an element are those that it uses. -/
theorem names_pieces (depth : Nat) (inExpression : Bool) : ∀ element : Markup,
    Piece.names (pieces s depth inExpression element) = uses element
  | slot prop => by cases inExpression <;> rfl
  | image _ _ _ => rfl
  | missing _ => rfl
  | icon _ _ => rfl
  | use component attributes => by
    simp [pieces, uses, List.filter_cons, filter_attributePieces]
  | text tag looks content => by simp [pieces, uses, filter_openingPieces, filter_contentPieces]
  | empty tag looks => by cases looks <;> rfl
  | container tag looks children => by simp [pieces, uses, filter_openingPieces, names_piecesAll]

/-- The names in the lines of elements are those that they use. -/
theorem names_piecesAll (depth : Nat) : ∀ elements : List (Option String × Markup),
    Piece.names (piecesAll s depth elements) = usesAll elements
  | [] => rfl
  | (none, element) :: rest => by simp [piecesAll, usesAll, names_pieces, names_piecesAll]
  | (some prop, element) :: rest => by
    simp [piecesAll, usesAll, List.filter_cons, names_pieces, names_piecesAll]

end
end Markup

private theorem filter_intercalate (text : String) (parts : List (List Piece)) :
    ([plain text].intercalate parts).filter (·.isName) = parts.flatMap (·.filter (·.isName)) := by
  induction parts with
  | nil => rfl
  | cons part rest ih =>
    cases rest with
    | nil => simp [List.intercalate]
    | cons next rest =>
      rw [List.intercalate_cons_cons, List.filter_append, List.filter_append, ih]
      simp

private theorem filter_classPieces (slug : String) (k : ConditionalClass) :
    (ClassList.classPieces s slug k).filter (·.isName) =
      k.assignments.map (fun a => Piece.prop (Text.propertyIdentifier a.1))
        ++ [Piece.looks (.style (VariantKey.className slug k.variantKey))] := by
  rw [ClassList.classPieces, List.filter_append, filter_intercalate, List.flatMap_map, List.map_eq_flatMap]
  rfl

private theorem ClassList.names_pieces (depth : Nat) (c : ClassList) : Piece.names (c.pieces s depth) = c.uses := by
  have classes : Piece.names (c.conditional.map fun k => (depth + 1, classPieces s c.slug k)) =
      c.conditional.flatMap fun k => (classPieces s c.slug k).filter (·.isName) := List.flatMap_map _ _ _
  rw [pieces, List.cons_append, List.cons_append, Piece.names_cons, Piece.names_cons, Piece.names_append, classes]
  simp [uses, filter_classPieces, List.filter_cons]

/-- The names in the lines of a module are those that it uses. -/
theorem ComponentModule.names_pieces (s : Settings) (m : ComponentModule) : Piece.names (m.pieces s) = m.uses := by
  have nothing (depth : Nat) (layouts : List Layout) : Piece.names (plainLines depth layouts) = [] := by
    rw [Piece.names, plainLines, List.flatMap_map]
    exact List.flatMap_eq_nil_iff.2 fun line _ => rfl
  have lists (l : List ClassList) : Piece.names (l.flatMap (·.pieces s 2)) = l.flatMap (·.uses) := by
    induction l with
    | nil => rfl
    | cons c rest ih => rw [List.flatMap_cons, Piece.names_append, ih, ClassList.names_pieces, List.flatMap_cons]
  have classes : Piece.names (m.classPieces s) = (m.classes.getD []).flatMap (·.uses) := by
    unfold classPieces
    cases m.classes with
    | none => rfl
    | some l => simp [lists]
  simp [pieces, uses, nothing, classes, Markup.filter_openingPieces, Markup.names_piecesAll]

end
end Handoff
