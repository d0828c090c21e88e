/-!
# Log records

What a run has to say besides its result: warnings about things it went on without, and errors about
things it could not do.
-/

namespace Handoff

/-- How grave a record is. -/
inductive Level where
  | warning
  | error
  deriving DecidableEq, Repr, Inhabited

/-- The name of a level. -/
def Level.name : Level → String
  | .warning => "WARN"
  | .error => "ERROR"

/-- A log record. -/
structure LogRecord where
  level : Level
  text : String
  deriving DecidableEq, Repr, Inhabited

end Handoff
