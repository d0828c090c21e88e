import Handoff.Text.Split

/-!
# Paths

A path is a text of names between slashes. The name of a file may end in an extension: what follows the
last dot, unless the name starts with that dot.
-/

namespace Handoff.Path

/-- The parts of a path between its slashes. -/
def parts (path : String) : List String := (Text.splitOnChar '/' path.toList).map String.ofList

/-- Whether a path starts at the root. -/
def isAbsolute (path : String) : Bool := path.toList.head? == some '/'

/-- The path of a name inside a folder. An absolute name stands for itself. -/
def join (folder name : String) : String :=
  if isAbsolute name || folder.isEmpty then name
  else if folder.toList.getLast? = some '/' then folder ++ name
  else folder ++ "/" ++ name

/-- The last name of a path. -/
def fileName (path : String) : String := (parts path).getLastD ""

/-- A name cut before its last dot, and what follows the dot; there is no cut at the start. -/
def cutExtension (name : String) : String × Option String :=
  let pieces := Text.splitOnChar '.' name.toList
  match pieces.getLast?, pieces.dropLast with
  | some last, first :: rest =>
    if first.isEmpty ∧ rest.isEmpty then (name, none)
    else (String.ofList (['.'].intercalate (first :: rest)), some (String.ofList last))
  | _, _ => (name, none)

/-- The extension of the last name of a path. -/
def extension? (path : String) : Option String := (cutExtension (fileName path)).2

/-- The last name of a path without its extension. -/
def stem (path : String) : String := (cutExtension (fileName path)).1

/-- Whether a path comes before another, name by name. -/
def precedes (a b : String) : Bool := !decide (parts b < parts a)

end Handoff.Path
