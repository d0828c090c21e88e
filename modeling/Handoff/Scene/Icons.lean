import Handoff.Scene.Edit

/-!
# The icons page

Imported icons live on a page of their own. Each icon is a component named `set:name` with one vector
child that exports the icon's markup. An import replaces every page of that name; its ids follow from
the set and the names, so importing the same icons again gives the same nodes.
-/

namespace Handoff

/-- The name of the page that holds imported icons. -/
def iconsPageName : String := "Icons"

/-- The side of an icon. -/
def iconSide : Binary64 := (Binary64.ofNat? 24).getD .zero

namespace Document

/-- The component of an icon. -/
def iconComponent (iconName : String) : Node :=
  { id := "icon:" ++ iconName, name := iconName, kind := .component, width := iconSide,
    height := iconSide }

/-- The drawing of an icon. -/
def iconVector (iconName svg : String) : Node :=
  { id := "icon:" ++ iconName ++ ":vector", name := "Vector", kind := .vector, width := iconSide,
    height := iconSide, exported := some ⟨.svg, svg⟩ }

/-- Add icons to a page. What was added before an error stays. -/
def addIcons (set : String) (pageId : NodeId) (d : Document) :
    List (String × String) → Document × Except CompileError Unit
  | [] => (d, .ok ())
  | (name, svg) :: rest =>
    let component := iconComponent (set ++ ":" ++ name)
    match d.addNode component (some pageId) with
    | .error e => (d, .error e)
    | .ok d₁ =>
      match d₁.addNode (iconVector (set ++ ":" ++ name) svg) (some component.id) with
      | .error e => (d₁, .error e)
      | .ok d₂ => addIcons set pageId d₂ rest

/-- Remove nodes one after the other, up to the first error. -/
def removeNodes (d : Document) : List NodeId → Document × Except CompileError Unit
  | [] => (d, .ok ())
  | id :: rest =>
    match d.removeNode id with
    | (d', .ok ()) => removeNodes d' rest
    | (d', .error e) => (d', .error e)

/-- Replace the icons page by one with the given icons, and count them. -/
def importIcons (d : Document) (set : String) (icons : OrderedMap String) :
    Document × Except CompileError Nat :=
  let existing := (d.pages.filter (·.name == iconsPageName)).map (·.id)
  match d.removeNodes existing with
  | (cleared, .error e) => (cleared, .error e)
  | (cleared, .ok ()) =>
    let page : Node := { id := "icons:" ++ set, name := iconsPageName, kind := .page }
    match cleared.addNode page none with
    | .error e => (cleared, .error e)
    | .ok paged =>
      match addIcons set page.id paged icons.entries with
      | (done, .ok ()) => (done, .ok icons.size)
      | (done, .error e) => (done, .error e)

end Document
end Handoff
