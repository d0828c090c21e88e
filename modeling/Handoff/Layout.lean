import Handoff.Settings
import Handoff.Text.Quoted
import Handoff.Text.Split

/-!
# Laying out module text

A writer collects lines at an indentation depth. A line that holds line feeds is written as several,
and empty lines carry no indentation. A layout is the tree of lines, blank lines and blocks that a
module is made of; writing it keeps the depth balanced.
-/

namespace Handoff

/-- Text under construction. -/
structure Writer where
  unit : String
  quote : Char
  depth : Nat
  text : String
  deriving DecidableEq, Repr

namespace Writer

/-- The unit of indentation that settings ask for. -/
def unitOf (s : WriterSettings) : String :=
  if s.useTabs then "\t" else String.ofList (List.replicate s.indentWidth ' ')

/-- The quote character that settings ask for. -/
def quoteOf (s : WriterSettings) : Char :=
  if s.useSingleQuote then '\'' else '"'

/-- A writer without text. -/
def ofSettings (s : WriterSettings) : Writer := ⟨unitOf s, quoteOf s, 0, ""⟩

/-- Whether nothing has been written. -/
def isEmpty (w : Writer) : Bool := w.text.isEmpty

/-- A text as a literal in the writer's quotes. -/
def quoted (w : Writer) (text : String) : String := Text.quotedString w.quote text

/-- The indentation of the current depth. -/
def indentation (w : Writer) : String := String.join (List.replicate w.depth w.unit)

/-- One line of text and its line feed at an indentation; an empty line is not indented. -/
def lineText (indentation : String) (line : List Char) : String :=
  if line.isEmpty then "\n" else indentation ++ String.ofList line ++ "\n"

/-- Write a text line by line. -/
def writeLine (w : Writer) (line : String) : Writer :=
  let indentation := w.indentation
  { w with
    text := (Text.splitOnChar '\n' line.toList).foldl (fun t l => t ++ lineText indentation l) w.text }

/-- Write an empty line. -/
def blankLine (w : Writer) : Writer := { w with text := w.text ++ "\n" }

/-- Indent one unit deeper. -/
def indent (w : Writer) : Writer := { w with depth := w.depth + 1 }

/-- Indent one unit less, but never less than none. -/
def dedent (w : Writer) : Writer := { w with depth := w.depth - 1 }

end Writer

/-- The lines of a module as a tree. -/
inductive Layout where
  | line (text : String)
  | blank
  | block (opening closing : String) (body : List Layout)

namespace Layout

mutual

/-- Write a layout. -/
def write (w : Writer) : Layout → Writer
  | line text => w.writeLine text
  | blank => w.blankLine
  | block opening closing body =>
    (writeAll (w.writeLine opening).indent body).dedent.writeLine closing

/-- Write layouts one after the other. -/
def writeAll (w : Writer) : List Layout → Writer
  | [] => w
  | layout :: rest => writeAll (write w layout) rest

end

/-- The text of a list of layouts. -/
def render (s : WriterSettings) (layouts : List Layout) : String :=
  (writeAll (Writer.ofSettings s) layouts).text

/-- Writing one list after another is writing their concatenation. -/
theorem writeAll_append (w : Writer) (a b : List Layout) :
    writeAll w (a ++ b) = writeAll (writeAll w a) b := by
  induction a generalizing w with
  | nil => rfl
  | cons layout rest ih => simp only [List.cons_append, writeAll, ih]

end Layout
end Handoff
