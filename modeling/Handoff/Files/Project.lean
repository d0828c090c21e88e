import Handoff.Files.Host
import Handoff.Session.Output

/-!
# Projects on a host

A document is kept as the text of its snapshot. A compiled project becomes one file for each component,
the theme and the index, all in one folder.
-/

namespace Handoff

/-- The files of a project: names and texts. -/
def ProjectOutput.files (o : ProjectOutput) : List (String × String) :=
  o.bundles.values.map (fun b => (b.name ++ ".tsx", b.code))
    ++ [("theme.ts", o.theme), ("index.ts", o.state.index)]

namespace Host

variable {m : Type → Type} [Monad m]

/-- Load a document. -/
def load (h : Host m) (path : String) : Act m Document := do
  let text ← h.textOr path (.unreadableFile path)
  Act.ofExcept (Document.parse text)

/-- Save a document. -/
def save (h : Host m) (path : String) (d : Document) : Act m Unit := h.write path d.print

/-- Write a project into a folder, and count the files. -/
def writeProject (h : Host m) (folder : String) (o : ProjectOutput) : Act m Nat := do
  h.make folder
  o.files.forM fun (name, text) => h.write (Path.join folder name) text
  return o.files.length

/-- Compile a document file into a folder. The document file stays as it is. -/
def compileFile (h : Host m) (settings : Settings) (input folder : String) :
    Act m CompilationStats := do
  let d ← h.load input
  let (_, report) := compileDocument settings d false
  h.noteAll report.log
  let written ← h.writeProject folder report.result
  return report.result.stats written

end Host
end Handoff
