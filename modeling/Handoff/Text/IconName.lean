import Handoff.Text.Split

/-!
# Names of imported icons

An icon source is a component named `set:name`, where both parts are non-empty and made of small ASCII
letters, digits and hyphens.
-/

namespace Handoff.Text

/-- The characters of an icon set and of an icon's own name. -/
def isIconChar (c : Char) : Bool :=
  c.isLower || c.isDigit || c = '-'

/-- Whether one part of an icon name is well formed. -/
def isIconPart (s : List Char) : Bool :=
  !s.isEmpty && s.all isIconChar

/-- Whether a text is an icon name. -/
def isIconName (s : String) : Bool :=
  match splitOnChar ':' s.toList with
  | [set, name] => isIconPart set && isIconPart name
  | _ => false

/-- The set of an icon name: what precedes the first colon. -/
def iconSet (name : String) : String :=
  String.ofList (name.toList.takeWhile (· ≠ ':'))

end Handoff.Text
