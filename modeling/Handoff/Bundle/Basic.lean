import Handoff.Component.Model
import Handoff.Json.Printer
import Handoff.Json.Reader
import Handoff.Json.Record

/-!
# Bundles

A bundle is everything that compiling one component yields. Its JSON text is what a node of the
document keeps between runs; every field has to be there to read one back.
-/

namespace Handoff

/-- The icons that a component knows and uses. -/
structure BundleIcons where
  /-- The component of every known icon. -/
  map : OrderedMap NodeId := .empty
  list : List String := []
  used : List String := []
  deriving DecidableEq

/-- The result of compiling one component. -/
structure Bundle where
  id : NodeId
  name : String
  page : String
  path : String
  code : String
  theme : String
  preview : String
  links : OrderedMap String
  icons : BundleIcons
  /-- The assets in use by content hash. -/
  assets : OrderedMap Asset
  deriving DecidableEq

namespace Asset

/-- Read an asset. -/
def ofJson? (j : Json) : Option Asset := do
  let f ← j.fields? ["id", "name", "hash", "format", "width", "height", "data"]
  let id ← f.required "id" Json.string?
  let name ← f.required "name" Json.string?
  let hash ← f.required "hash" Json.string?
  let format ← f.required "format" (fun j => j.token?.bind AssetFormat.ofToken?)
  let width ← f.required "width" Json.number?
  let height ← f.required "height" Json.number?
  let data ← f.required "data" Json.string?
  return { id, name, hash, format, width, height, data }

/-- Write an asset. -/
def toJson (a : Asset) : Json :=
  .object [("id", .string a.id), ("name", .string a.name), ("hash", .string a.hash),
    ("format", .string a.format.token), ("width", .number a.width), ("height", .number a.height),
    ("data", .string a.data)]

end Asset

namespace BundleIcons

/-- Read the icons of a bundle. -/
def ofJson? (j : Json) : Option BundleIcons := do
  let f ← j.fields? ["map", "list", "used"]
  let map ← f.required "map" (Json.orderedMap? Json.string?)
  let list ← f.required "list" (Json.list? Json.string?)
  let used ← f.required "used" (Json.list? Json.string?)
  return { map, list, used }

/-- Write the icons of a bundle. -/
def toJson (i : BundleIcons) : Json :=
  .object [("map", .ofOrderedMap i.map .string), ("list", .ofStrings i.list),
    ("used", .ofStrings i.used)]

end BundleIcons

namespace Bundle

/-- Read a bundle. -/
def ofJson? (j : Json) : Option Bundle := do
  let f ← j.fields?
    ["id", "name", "page", "path", "code", "theme", "preview", "links", "icons", "assets"]
  let id ← f.required "id" Json.string?
  let name ← f.required "name" Json.string?
  let page ← f.required "page" Json.string?
  let path ← f.required "path" Json.string?
  let code ← f.required "code" Json.string?
  let theme ← f.required "theme" Json.string?
  let preview ← f.required "preview" Json.string?
  let links ← f.required "links" (Json.orderedMap? Json.string?)
  let icons ← f.required "icons" BundleIcons.ofJson?
  let assets ← f.required "assets" (Json.orderedMap? Asset.ofJson?)
  return { id, name, page, path, code, theme, preview, links, icons, assets }

/-- Write a bundle. -/
def toJson (b : Bundle) : Json :=
  .object [("id", .string b.id), ("name", .string b.name), ("page", .string b.page),
    ("path", .string b.path), ("code", .string b.code), ("theme", .string b.theme),
    ("preview", .string b.preview), ("links", .ofOrderedMap b.links .string),
    ("icons", b.icons.toJson), ("assets", .ofOrderedMap b.assets Asset.toJson)]

/-- The text that a node keeps. -/
def print (b : Bundle) : String := b.toJson.compact

/-- Read the text that a node keeps. -/
def parse? (text : String) : Option Bundle := (Json.parse? text).bind ofJson?

end Bundle
end Handoff
