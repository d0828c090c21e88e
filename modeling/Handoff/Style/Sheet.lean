import Handoff.Number.Hundredths
import Handoff.Ordered.Map

/-!
# Style maps and patches

A style map gives values to style properties, in the order in which they are written. A patch leads
from one map to another: it sets what is new or different and unsets what is gone. Values are compared
as what they say, so zeros of either sign are the same number.
-/

namespace Handoff

/-- The value of a style property. -/
inductive StyleValue where
  | number (x : Binary64)
  | string (s : String)
  /-- An expression into the theme module. -/
  | theme (expression : String)
  /-- The property is taken away. -/
  | unset
  deriving DecidableEq

namespace StyleValue

instance : Inhabited StyleValue := ⟨.unset⟩

/-- Whether two values say the same. -/
def same : StyleValue → StyleValue → Bool
  | number x, number y => x.same y
  | string s, string t => s == t
  | theme e, theme f => e == f
  | unset, unset => true
  | _, _ => false

/-- Every value says the same as itself. -/
theorem same_refl (v : StyleValue) : v.same v = true := by
  cases v <;> simp [same, Binary64.same_refl]

end StyleValue

/-- A style map. -/
abbrev StyleMap := OrderedMap StyleValue

namespace StyleMap

/-- Whether a map gives a property a value that says the same. -/
def holds (m : StyleMap) (property : String) (value : StyleValue) : Bool :=
  match m.get? property with
  | some v => v.same value
  | none => false

/-- The patch from a base to a variant: first what the variant sets, then what it lacks. -/
def patch (base variant : StyleMap) : StyleMap :=
  let set := variant.entries.filter (fun e => !holds base e.1 e.2)
  let lost := (base.keys.filter (fun k => !variant.contains k)).map (·, StyleValue.unset)
  OrderedMap.ofList (set ++ lost)

/-- Take a property away. -/
def erase (m : StyleMap) (property : String) : StyleMap := m.filterKeys (· ≠ property)

/-- Apply one entry of a patch. -/
def applyEntry (m : StyleMap) (e : String × StyleValue) : StyleMap :=
  match e.2 with
  | .unset => erase m e.1
  | value => m.insert e.1 value

/-- Apply a patch. -/
def apply (m p : StyleMap) : StyleMap := p.entries.foldl applyEntry m

end StyleMap
end Handoff
