import Handoff.Json.Basic

/-!
# Tagged unions in JSON

A tagged value names its case in the member `type`, and its other members are the fields of the case.
As an array its first item is the tag. A tagged value is taken as a whole, so nothing in it may be
unusable, not even in a member that its case does not know.
-/

namespace Handoff.Json

/-- The tag of a value and what remains without it. -/
def tagged? (j : Json) : Option (String × Json) :=
  if j.usable then
    match j with
    | object members =>
      match members.filter (·.1 == "type") with
      | [(_, string tag)] => some (tag, object (members.filter (·.1 != "type")))
      | _ => none
    | array (string tag :: rest) => some (tag, array rest)
    | _ => none
  else none

/-- A value under a tag. -/
def withTag (tag : String) (members : List (String × Json)) : Json :=
  object (("type", string tag) :: members)

end Handoff.Json
