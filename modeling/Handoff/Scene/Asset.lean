import Handoff.Bytes.Base64
import Handoff.Bytes.Digest

/-!
# Exported assets

An asset node carries its rendered form: markup for vector formats, base64 text for raster ones. In a
module the bytes appear as a data address.
-/

namespace Handoff

/-- The format of an export. -/
inductive AssetFormat where
  | svg
  | png
  deriving DecidableEq, Repr, Inhabited

namespace AssetFormat

/-- The token of a format. -/
def token : AssetFormat → String
  | .svg => "svg"
  | .png => "png"

/-- The format of a token. -/
def ofToken? (token : String) : Option AssetFormat :=
  [svg, png].find? (·.token == token)

/-- The media type of a format. -/
def mime : AssetFormat → String
  | .svg => "image/svg+xml"
  | .png => "image/png"

/-- The data address of exported bytes. -/
def dataUri (format : AssetFormat) (bytes : Bytes) : String :=
  "data:" ++ format.mime ++ ";base64," ++ Base64.encode bytes

end AssetFormat

/-- The rendered form that a node carries. -/
structure ExportedAsset where
  format : AssetFormat
  data : String
  deriving DecidableEq, Repr, Inhabited

namespace ExportedAsset

/-- The bytes of an export; raster data must be base64 text. -/
def bytes? (e : ExportedAsset) : Option Bytes :=
  match e.format with
  | .svg => some (Bytes.ofText e.data)
  | .png => Base64.decode? e.data

end ExportedAsset
end Handoff
