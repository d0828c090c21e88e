import Handoff.Module.Printer

/-!
# Usage lines and the index

A usage line shows a component with the defaults of its properties. The index module exports the
components of a project again.
-/

namespace Handoff

/-- The default of a property as an attribute value. -/
def PropertyDefinition.usageText (s : Settings) (d : PropertyDefinition) : String :=
  match d.kind, d.default with
  | .boolean, value => braced (toString value.truth)
  | _, value => s.quoted value.wording

namespace Descriptor

/-- The properties that a usage line shows: all but swaps, in display order. -/
def shownProperties (d : Descriptor) : List (String × PropertyDefinition) :=
  PropertyOrder.sortBy PropertyOrder.display (fun e => (e.1, e.2.kind))
    (d.properties.entries.filter (·.2.kind ≠ .instanceSwap))

/-- The usage line of a component. -/
def usage (s : Settings) (d : Descriptor) : String :=
  "<" ++ d.name
    ++ String.join (d.shownProperties.map fun e =>
      " " ++ Text.propertyIdentifier e.1 ++ "=" ++ e.2.usageText s)
    ++ "/>"

end Descriptor

/-- The line of the index that exports a component. -/
def indexLine (s : Settings) (name : String) : String :=
  "export " ++ braced name ++ " from " ++ s.quoted ("./" ++ name) ++ ";"

/-- The index module of components. -/
def indexText (s : Settings) (names : List String) : String :=
  Layout.render s.writer (names.map fun name => .line (indexLine s name))

end Handoff
