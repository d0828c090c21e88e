import Handoff.Command.Run

/-!
# The program

The program runs its command line on the machine: files are files, the console is the standard output,
and failures and log records go to the standard error.
-/

namespace Handoff

/-- The fault that an error of the machine stands for. -/
def faultOf : IO.Error → FileFault
  | .inappropriateType .. => .notDirectory
  | .invalidArgument .. => .nameTooLong
  | _ => .notFound

/-- The outcome of an action on files. -/
def guarded {α : Type} (action : IO α) : IO (Except FileFault α) := do
  try return .ok (← action)
  catch e => return .error (faultOf e)

/-- Whether a path leads to a folder. -/
def isFolder (path : String) : IO Bool := (IO.FS.DirEntry.mk path "").root.isDir

/-- The text of a file. -/
def readTextFile (path : String) : IO (Except FileFault String) := do
  if ← isFolder path then return .error .isDirectory
  match ← guarded (IO.FS.readBinFile path) with
  | .error e => return .error e
  | .ok bytes =>
    match String.fromUTF8? bytes with
    | some text => return .ok text
    | none => return .error .invalidUtf8

/-- The paths of all files at or below a path. -/
partial def pathsBelow (path : String) : IO (List String) := do
  let entry := IO.FS.DirEntry.mk path ""
  let about ← entry.root.metadata
  match about.type with
  | .dir =>
    let entries ← entry.root.readDir
    let lists ← entries.toList.mapM fun inner => pathsBelow (Path.join path inner.fileName)
    return lists.flatten
  | .file => return [path]
  | _ => return []

/-- The machine as a host. -/
def machine (start : Nat) : Host IO where
  readText := readTextFile
  writeText path text := guarded (IO.FS.writeFile path text)
  makeFolders path := if path.isEmpty then return .ok () else guarded (IO.FS.createDirAll path)
  below path := guarded (pathsBelow path)
  print text := do
    IO.print text
    (← IO.getStdout).flush
  note record := IO.eprintln (record.level.name ++ " " ++ record.text)
  elapsed := do return (← IO.monoMsNow) - start

end Handoff

/-- Run the program. -/
def main (line : List String) : IO UInt32 := do
  let ending ← Handoff.Command.run (Handoff.machine (← IO.monoMsNow)) line
  IO.eprint ending.failure
  return UInt32.ofNat ending.code
