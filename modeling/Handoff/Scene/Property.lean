/-!
# Component properties

A component declares properties by key. A property has a type, a default and, for variant properties,
the list of its options.
-/

namespace Handoff

/-- The type of a component property. -/
inductive PropertyType where
  | boolean
  | text
  | instanceSwap
  | variant
  deriving DecidableEq, Repr, Inhabited

namespace PropertyType

/-- The token of a type. -/
def token : PropertyType → String
  | .boolean => "BOOLEAN"
  | .text => "TEXT"
  | .instanceSwap => "INSTANCE_SWAP"
  | .variant => "VARIANT"

/-- The type of a token. -/
def ofToken? (token : String) : Option PropertyType :=
  [boolean, text, instanceSwap, variant].find? (·.token == token)

/-- Whether properties of a type decide whether or what renders, rather than how. -/
def isConditional : PropertyType → Bool
  | .boolean | .instanceSwap => true
  | _ => false

/-- A token determines its type. -/
theorem ofToken?_token (t : PropertyType) : ofToken? t.token = some t := by
  cases t <;> decide

end PropertyType

/-- The value of a property. -/
inductive PropertyValue where
  | bool (b : Bool)
  | text (s : String)
  deriving DecidableEq, Repr

namespace PropertyValue

instance : Inhabited PropertyValue := ⟨.text ""⟩

/-- The text of a textual value. -/
def text? : PropertyValue → Option String
  | .text s => some s
  | .bool _ => none

/-- A value read as a boolean: a text counts as true exactly if it is the word. -/
def truth : PropertyValue → Bool
  | .bool b => b
  | .text s => s == "true"

/-- A value read as a text. -/
def wording : PropertyValue → String
  | .bool b => toString b
  | .text s => s

end PropertyValue

/-- The definition of a property. -/
structure PropertyDefinition where
  kind : PropertyType
  default : PropertyValue
  options : List String
  deriving DecidableEq, Repr, Inhabited

end Handoff
