import Handoff.Bytes.Hex
import Handoff.Error
import Handoff.Files.Path

/-!
# File trees

A file tree holds files and folders under their places, lists of names from the root, and has a working
folder from which paths are followed. A path is followed name by name; every name but the last has to
be a folder, and neither a name nor the whole path may be too long. What cannot be followed, read or
written is a fault and changes nothing.
-/

namespace Handoff

/-- The names from the root to a file or folder. -/
abbrev Place := List String

/-- A tree of files. -/
structure FileTree where
  files : List (Place × Bytes) := []
  folders : List Place := []
  here : Place := []
  deriving DecidableEq

namespace FileTree

/-- The content of the file at a place. -/
def file? (t : FileTree) (p : Place) : Option Bytes := t.files.lookup p

/-- Whether a place is a folder. -/
def isFolder (t : FileTree) (p : Place) : Bool := p.isEmpty || t.folders.contains p

/-- The largest size of a name in bytes. -/
def nameLimit : Nat := 255

/-- The largest size of a path in bytes. -/
def pathLimit : Nat := 4095

/-- Whether a path is too long to be followed. -/
def isOverlong (path : String) : Bool := pathLimit < path.utf8ByteSize

/-- Whether a name is too long to stand for anything. -/
def isTooLong (name : String) : Bool := nameLimit < name.utf8ByteSize

/-- Whether a name leads nowhere else. -/
def staysHere (name : String) : Bool := name.isEmpty || name == "."

/-- Follow a name to a folder. -/
def enter (t : FileTree) (p : Place) (name : String) : Except FileFault Place :=
  if staysHere name then .ok p
  else if name = ".." then .ok p.dropLast
  else if isTooLong name then .error .nameTooLong
  else if t.isFolder (p ++ [name]) then .ok (p ++ [name])
  else if (t.file? (p ++ [name])).isSome then .error .notDirectory
  else .error .notFound

/-- Follow names to a folder. -/
def enterAll (t : FileTree) (p : Place) : List String → Except FileFault Place
  | [] => .ok p
  | name :: rest =>
    match t.enter p name with
    | .ok p => enterAll t p rest
    | .error e => .error e

/-- Follow names to a place that need not exist. -/
def follow (t : FileTree) (p : Place) : List String → Except FileFault Place
  | [] => .ok p
  | [name] =>
    if staysHere name ∨ name = ".." then t.enter p name
    else if isTooLong name then .error .nameTooLong
    else .ok (p ++ [name])
  | name :: rest =>
    match t.enter p name with
    | .ok p => follow t p rest
    | .error e => .error e

/-- Where paths start. -/
def origin (t : FileTree) (path : String) : Place := if Path.isAbsolute path then [] else t.here

/-- Whether a path holds the character that no name may hold. -/
def holdsNul (path : String) : Bool := path.toList.contains '\x00'

/-- The place that a path leads to. -/
def locate (t : FileTree) (path : String) : Except FileFault Place :=
  if holdsNul path then .error .nulInPath
  else if isOverlong path then .error .nameTooLong
  else if path.isEmpty then .error .notFound
  else t.follow (t.origin path) (Path.parts path)

/-- The content of a file. -/
def read (t : FileTree) (path : String) : Except FileFault Bytes :=
  match t.locate path with
  | .error e => .error e
  | .ok p =>
    match t.file? p with
    | some bytes => .ok bytes
    | none => if t.isFolder p then .error .isDirectory else .error .notFound

/-- The text of a file. -/
def readText (t : FileTree) (path : String) : Except FileFault String :=
  match t.read path with
  | .error e => .error e
  | .ok bytes =>
    match bytes.toText? with
    | some text => .ok text
    | none => .error .invalidUtf8

/-- Put a file at a place. -/
def put (t : FileTree) (p : Place) (content : Bytes) : FileTree :=
  { t with files := t.files.filter (·.1 ≠ p) ++ [(p, content)] }

/-- Write a text to a file. -/
def writeText (t : FileTree) (path text : String) : Except FileFault FileTree :=
  match t.locate path with
  | .error e => .error e
  | .ok p => if t.isFolder p then .error .isDirectory else .ok (t.put p (Bytes.ofText text))

/-- Follow names to a folder, and make the folders that do not exist. -/
def makeAll (t : FileTree) (p : Place) : List String → Except FileFault FileTree
  | [] => .ok t
  | name :: rest =>
    match t.enter p name with
    | .ok p => makeAll t p rest
    | .error .notFound =>
      makeAll { t with folders := t.folders ++ [p ++ [name]] } (p ++ [name]) rest
    | .error e => .error e

/-- The parts of a path before its last name, if dots follow that name. -/
def partsBeforeDotted? (parts : List String) : Option (List String) :=
  let (dots, names) := parts.reverse.span staysHere
  if dots.contains "." ∧ names ≠ [] then some (names.drop 1).reverse else none

/-- Make a folder with all folders above it. A folder whose name is followed by a dot has to exist. -/
def makeFolders (t : FileTree) (path : String) : Except FileFault FileTree :=
  let parts := Path.parts path
  if holdsNul path then .error .nulInPath
  else if isOverlong path then .error .nameTooLong
  else
    match partsBeforeDotted? parts with
    | none => t.makeAll (t.origin path) parts
    | some above =>
      match t.makeAll (t.origin path) above with
      | .error e => .error e
      | .ok t => (t.enterAll (t.origin path) parts).map fun _ => t

/-- The paths of the places below a place that the path leads to. -/
def pathsFrom (path : String) (p : Place) (places : List Place) : List String :=
  (places.filter p.isPrefixOf).map fun q => (q.drop p.length).foldl Path.join path

/-- The paths of all files at or below a path. Every folder on the way has to be entered. -/
def below (t : FileTree) (path : String) : Except FileFault (List String) :=
  match t.locate path with
  | .error e => .error e
  | .ok p =>
    if (t.file? p).isSome then .ok [path]
    else if !t.isFolder p then .error .notFound
    else if (pathsFrom path p t.folders).any isOverlong then .error .nameTooLong
    else .ok (pathsFrom path p (t.files.map Prod.fst))

/-- A tree with a file at a place and the folders above it. -/
def withFile (t : FileTree) (p : Place) (content : Bytes) : FileTree :=
  let above := (List.range p.length).map (p.take ·)
  { t with folders := t.folders ++ above.filter (!t.folders.contains ·) }.put p content

end FileTree
end Handoff
