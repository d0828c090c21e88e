import Handoff.Scene.Kind

/-!
# Causes of failure

Every way in which reading, compiling or writing can fail is one constructor with the facts it is
about. The wording is `CompileError.message`, and nothing else in the library spells an error.
-/

namespace Handoff

/-- Why a file could not be used. -/
inductive FileFault where
  | notFound
  | isDirectory
  | notDirectory
  | nameTooLong
  | nulInPath
  | invalidUtf8
  deriving DecidableEq, Repr, Inhabited

/-- The wording of a file fault. -/
def FileFault.message : FileFault → String
  | .notFound => "No such file or directory (os error 2)"
  | .isDirectory => "Is a directory (os error 21)"
  | .notDirectory => "Not a directory (os error 20)"
  | .nameTooLong => "File name too long (os error 36)"
  | .nulInPath => "file name contained an unexpected NUL byte"
  | .invalidUtf8 => "stream did not contain valid UTF-8"

/-- Why an operation failed. -/
inductive CompileError where
  /-- The file tree refused a write or a traversal. -/
  | inputOutput
  /-- A text is not the JSON of the expected value. -/
  | malformedJson
  | nodeNotFound (id : NodeId)
  | notAComponent (id : NodeId) (name : String)
  | emptyVariantSet (component : String)
  | noMainComponent (node : String)
  | missingMainComponent (node : String) (main : NodeId)
  | noCompileTarget (node : String) (main : NodeId)
  /-- A member whose key assigns nothing cannot be selected by a class. -/
  | unreadableVariantKey (key : String)
  | undecodableBundle (id : NodeId)
  | bundleNotWritten (id : NodeId)
  | pngNotBase64 (id : NodeId)
  | noThemeColors
  | duplicateNode (id : NodeId)
  | missingChild (node child : NodeId)
  | unreadableFile (path : String) (fault : FileFault)
  | unreadableConfig (path : String) (fault : FileFault)
  | malformedJsonConfig
  | malformedTomlConfig
  | unknownConfigFormat
  | emptyCacheLocation
  | zeroThemeInterval
  | invalidIconSet (set : String)
  deriving DecidableEq, Repr, Inhabited

namespace CompileError

/-- The wording of an extraction error. -/
def extraction (component message : String) : String :=
  "Extraction error in '" ++ component ++ "': " ++ message

/-- The wording of an error. -/
def message : CompileError → String
  | inputOutput => "IO error"
  | malformedJson => "JSON error"
  | nodeNotFound id => "Node not found: " ++ id
  | notAComponent id name =>
    "Node '" ++ name ++ "' (" ++ id ++ ") is not a component, instance or variant set"
  | emptyVariantSet component => extraction component "variant set has no members"
  | noMainComponent node => extraction node "instance has no main component"
  | missingMainComponent node main => extraction node ("main component " ++ main ++ " is missing")
  | noCompileTarget node main =>
    extraction node ("main component " ++ main ++ " has no compile target")
  | unreadableVariantKey key =>
    "Code generation error: variant key '" ++ key ++ "' has no property=value pairs"
  | undecodableBundle id => "Cached bundle for " ++ id ++ " could not be decoded"
  | bundleNotWritten id => "Cache write failed for " ++ id ++ ": Node not found: " ++ id
  | pngNotBase64 id => "Asset error for node " ++ id ++ ": PNG export is not valid base64"
  | noThemeColors => "Precondition failed: Generate a theme before importing icons"
  | duplicateNode id => "Invalid document: duplicate node id '" ++ id ++ "'"
  | missingChild node child =>
    "Invalid document: node '" ++ node ++ "' references missing child '" ++ child ++ "'"
  | unreadableFile path fault => "File not found: " ++ path ++ ": " ++ fault.message
  | unreadableConfig path fault => "File not found: Config file " ++ path ++ ": " ++ fault.message
  | malformedJsonConfig => "Invalid format: Invalid JSON config"
  | malformedTomlConfig => "Invalid format: Invalid TOML config"
  | unknownConfigFormat => "Invalid format: Config file must be .json or .toml format"
  | emptyCacheLocation => "Invalid format: cache.namespace and cache.key must not be empty"
  | zeroThemeInterval => "Invalid format: theme_interval_ms must be greater than zero"
  | invalidIconSet set => "Invalid format: Invalid icon set prefix '" ++ set ++ "'"

end CompileError
end Handoff
