import Handoff.Files.Tree
import Handoff.Log

/-!
# Hosts

A host is what commands work on: files, a console, a log and a clock, in some monad. A desk is the host
that needs no machine: a file tree with the text that was printed and the records that were logged, on
which no time passes.
-/

namespace Handoff

/-- Access to files, a console, a log and a clock. -/
structure Host (m : Type → Type) where
  readText : String → m (Except FileFault String)
  writeText : String → String → m (Except FileFault Unit)
  makeFolders : String → m (Except FileFault Unit)
  /-- The paths of all files at or below a path. -/
  below : String → m (Except FileFault (List String))
  print : String → m Unit
  note : LogRecord → m Unit
  /-- The milliseconds since the run began. -/
  elapsed : m Nat

/-- A file tree with what was printed and logged. -/
structure Desk where
  tree : FileTree
  printed : String := ""
  log : List LogRecord := []

namespace Desk

/-- Go on with a changed tree, if it could be changed. -/
def settle (result : Except FileFault FileTree) : StateM Desk (Except FileFault Unit) :=
  match result with
  | .ok tree => do
    modify fun d => { d with tree }
    return .ok ()
  | .error e => return .error e

/-- The host of desks. -/
def host : Host (StateM Desk) where
  readText path := do return (← get).tree.readText path
  writeText path text := do settle ((← get).tree.writeText path text)
  makeFolders path := do settle ((← get).tree.makeFolders path)
  below path := do return (← get).tree.below path
  print text := modify fun d => { d with printed := d.printed ++ text }
  note record := modify fun d => { d with log := d.log ++ [record] }
  elapsed := return 0

end Desk

/-- An activity on a host that may fail. -/
abbrev Act (m : Type → Type) := ExceptT CompileError m

/-- The outcome of a computation as an activity. -/
def Act.ofExcept {m : Type → Type} [Monad m] {α : Type} (e : Except CompileError α) : Act m α :=
  match e with
  | .ok a => return a
  | .error e => throw e

namespace Host

variable {m : Type → Type} [Monad m]

/-- Print a line. -/
def say (h : Host m) (text : String) : Act m Unit := h.print (text ++ "\n")

/-- Log records. -/
def noteAll (h : Host m) (log : List LogRecord) : Act m Unit := log.forM fun r => h.note r

/-- The text of a file, or the error that a fault is. -/
def textOr (h : Host m) (path : String) (asError : FileFault → CompileError) : Act m String := do
  match ← h.readText path with
  | .ok text => return text
  | .error fault => throw (asError fault)

/-- Write a file; every fault is the same error. -/
def write (h : Host m) (path text : String) : Act m Unit := do
  match ← h.writeText path text with
  | .ok () => return
  | .error _ => throw .inputOutput

/-- Make a folder; every fault is the same error. -/
def make (h : Host m) (path : String) : Act m Unit := do
  match ← h.makeFolders path with
  | .ok () => return
  | .error _ => throw .inputOutput

/-- The paths of all files at or below a path, in order; every fault is the same error. -/
def filesBelow (h : Host m) (path : String) : Act m (List String) := do
  match ← h.below path with
  | .ok paths => return paths.mergeSort Path.precedes
  | .error _ => throw .inputOutput

end Host
end Handoff
