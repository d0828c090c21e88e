import Handoff.Session.Project

/-!
# Events

A session reports what it does as events: a component was built, the theme was written, or there is
something to tell the user.
-/

namespace Handoff

/-- An event of a session. -/
inductive Event where
  | build (pass : Nat) (state : ProjectState) (bundle : Bundle)
  | theme (code : String) (current : Option String)
  | notice (message : String)

namespace Event

/-- Write an event. -/
def toJson : Event → Json
  | build pass state bundle =>
    .object [("type", .string "COMPONENT_BUILD"), ("pass", .ofNat pass), ("state", state.toJson),
      ("bundle", bundle.toJson)]
  | theme code current =>
    .object [("type", .string "THEME_UPDATE"), ("code", .string code),
      ("currentThemeName", .ofOption current .string)]
  | notice message => .object [("type", .string "NOTIFY"), ("message", .string message)]

end Event
end Handoff
