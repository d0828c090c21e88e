import Handoff.Bundle.Basic
import Handoff.Ordered.Sorted
import Handoff.Text.IconName

/-!
# The state of a project

While components compile, a user sees the state of the whole project: a roster of all components, the
index module, and what the bundles known so far add up to.
-/

namespace Handoff

/-- A component in the roster. -/
structure RosterEntry where
  id : NodeId
  name : String
  page : String
  path : String
  /-- The usage line, once there is a bundle. -/
  preview : Option String
  /-- Whether there is no bundle yet. -/
  loading : Bool
  deriving DecidableEq, Repr, Inhabited

/-- The icons that are known and used in a project. -/
structure IconRegistry where
  sets : OrderedSet String := .empty
  list : OrderedSet String := .empty
  used : OrderedSet String := .empty
  map : OrderedMap NodeId := .empty
  deriving DecidableEq

/-- The state of a project. -/
structure ProjectState where
  index : String := ""
  pages : List String := []
  links : OrderedMap String := .empty
  total : Nat := 0
  loaded : Nat := 0
  roster : SortedMap RosterEntry := .empty
  /-- All assets by content hash. -/
  assets : OrderedMap Asset := .empty
  /-- The content hashes that a component uses. -/
  assetMap : OrderedMap (List String) := .empty
  icons : IconRegistry := {}
  deriving DecidableEq

/-- A registry with the icons of a bundle. -/
def IconRegistry.add (r : IconRegistry) (icons : BundleIcons) : IconRegistry where
  sets := r.sets.insertAll (icons.list.map Text.iconSet)
  list := r.list.insertAll icons.list
  used := r.used.insertAll icons.used
  map := r.map.insertAll icons.map.entries

namespace ProjectState

/-- Add what a bundle holds. -/
def add (p : ProjectState) (b : Bundle) : ProjectState :=
  { p with
    links := p.links.insertAll b.links.entries
    icons := p.icons.add b.icons
    assets := p.assets.insertAll b.assets.entries
    assetMap := p.assetMap.insert b.name b.assets.keys }

/-- How many components of the roster have a bundle. -/
def countLoaded (p : ProjectState) : Nat := (p.roster.values.filter (!·.loading)).length

/-- Note in the roster that a component has a bundle. -/
def enter (p : ProjectState) (b : Bundle) : ProjectState :=
  let known := p.roster.get? b.name
  let path := (known.map (·.path)).getD b.path
  let entry : RosterEntry := ⟨b.id, b.name, b.page, path, some b.preview, false⟩
  let entered := { p with roster := p.roster.insert b.name entry }
  { entered with loaded := entered.countLoaded }

end ProjectState

/-- Write a roster entry. -/
def RosterEntry.toJson (e : RosterEntry) : Json :=
  .object ([("id", .string e.id), ("name", .string e.name), ("page", .string e.page),
      ("path", .string e.path)]
    ++ Json.memberOf "preview" e.preview .string ++ [("loading", .bool e.loading)])

/-- Write an icon registry. -/
def IconRegistry.toJson (r : IconRegistry) : Json :=
  .object [("sets", .ofStrings r.sets.elems), ("list", .ofStrings r.list.elems),
    ("used", .ofStrings r.used.elems), ("map", .ofOrderedMap r.map .string)]

/-- Write the state of a project. -/
def ProjectState.toJson (p : ProjectState) : Json :=
  .object [("index", .string p.index), ("pages", .ofStrings p.pages),
    ("links", .ofOrderedMap p.links .string), ("total", .ofNat p.total), ("loaded", .ofNat p.loaded),
    ("roster", .ofSortedMap p.roster RosterEntry.toJson),
    ("assets", .ofOrderedMap p.assets Asset.toJson),
    ("assetMap", .ofOrderedMap p.assetMap Json.ofStrings), ("icons", p.icons.toJson)]

end Handoff
