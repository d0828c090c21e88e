import Handoff.Bundle.Basic
import Handoff.Bundle.Compile
import Handoff.Bytes.Base64
import Handoff.Bytes.Digest
import Handoff.Bytes.Hex
import Handoff.Cache.Store
import Handoff.Cache.Tier
import Handoff.Color
import Handoff.Command.Console
import Handoff.Command.Invocation
import Handoff.Command.Option
import Handoff.Command.Run
import Handoff.Component.Descriptor
import Handoff.Component.Extract
import Handoff.Component.Model
import Handoff.Component.Primitive
import Handoff.Component.Target
import Handoff.Config
import Handoff.Error
import Handoff.Files.Host
import Handoff.Files.Path
import Handoff.Files.Project
import Handoff.Files.Tree
import Handoff.Json.Basic
import Handoff.Json.Printer
import Handoff.Json.Reader
import Handoff.Json.Record
import Handoff.Json.Tagged
import Handoff.Layout
import Handoff.Log
import Handoff.Main
import Handoff.Module.Component
import Handoff.Module.Markup
import Handoff.Module.Printer
import Handoff.Module.Usage
import Handoff.Number.Binary64
import Handoff.Number.Hundredths
import Handoff.Number.Nearest
import Handoff.Number.Rounding
import Handoff.Number.Scaled
import Handoff.Number.Shortest
import Handoff.Ordered.Map
import Handoff.Ordered.Set
import Handoff.Ordered.Sorted
import Handoff.Proofs.Bundle.AssetSizes
import Handoff.Proofs.Bundle.Canonical
import Handoff.Proofs.Bundle.Code
import Handoff.Proofs.Bundle.Failure
import Handoff.Proofs.Bundle.Locality
import Handoff.Proofs.Bundle.PluginData
import Handoff.Proofs.Bundle.Rearrangement
import Handoff.Proofs.Bundle.RoundTrip
import Handoff.Proofs.Cache.Counting
import Handoff.Proofs.Cache.Footprint
import Handoff.Proofs.Cache.Likeness
import Handoff.Proofs.Cache.NodeData
import Handoff.Proofs.Cache.Serving
import Handoff.Proofs.Cache.Tiers
import Handoff.Proofs.Component.Inspection
import Handoff.Proofs.Component.Locality
import Handoff.Proofs.Component.Modifiers
import Handoff.Proofs.Component.Reach
import Handoff.Proofs.Component.Simulation
import Handoff.Proofs.Component.Termination
import Handoff.Proofs.Component.Texts
import Handoff.Proofs.Component.Twins
import Handoff.Proofs.Component.Variants
import Handoff.Proofs.Component.Walk
import Handoff.Proofs.Files.Writing
import Handoff.Proofs.Json.Indented
import Handoff.Proofs.Json.Plain
import Handoff.Proofs.Json.Reading
import Handoff.Proofs.Json.Sameness
import Handoff.Proofs.Module.Classes
import Handoff.Proofs.Module.Comments
import Handoff.Proofs.Module.Imports
import Handoff.Proofs.Module.Index
import Handoff.Proofs.Module.Jsx
import Handoff.Proofs.Module.Lines
import Handoff.Proofs.Module.Literals
import Handoff.Proofs.Module.Looks
import Handoff.Proofs.Module.Precedence
import Handoff.Proofs.Module.Props
import Handoff.Proofs.Module.Quoted
import Handoff.Proofs.Module.Rendering
import Handoff.Proofs.Module.SheetNames
import Handoff.Proofs.Module.Spans
import Handoff.Proofs.Module.TopLevel
import Handoff.Proofs.Module.Written
import Handoff.Proofs.Number.Decimal
import Handoff.Proofs.Number.Hundredths
import Handoff.Proofs.Ordered.Map
import Handoff.Proofs.Ordered.Set
import Handoff.Proofs.Ordered.Sorted
import Handoff.Proofs.Scene.Adoption
import Handoff.Proofs.Scene.Comparison
import Handoff.Proofs.Scene.Difference
import Handoff.Proofs.Scene.Edit
import Handoff.Proofs.Scene.FailedImport
import Handoff.Proofs.Scene.IconsPage
import Handoff.Proofs.Scene.Mapping
import Handoff.Proofs.Scene.PropertyOrder
import Handoff.Proofs.Scene.Records
import Handoff.Proofs.Scene.Removal
import Handoff.Proofs.Scene.Sameness
import Handoff.Proofs.Scene.Snapshot
import Handoff.Proofs.Scene.Soundness
import Handoff.Proofs.Scene.Store
import Handoff.Proofs.Scene.Subtree
import Handoff.Proofs.Scene.Tree
import Handoff.Proofs.Session.Accounting
import Handoff.Proofs.Session.Aggregates
import Handoff.Proofs.Session.Agreement
import Handoff.Proofs.Session.Balance
import Handoff.Proofs.Session.Closure
import Handoff.Proofs.Session.Containment
import Handoff.Proofs.Session.Discovery
import Handoff.Proofs.Session.Dispatch
import Handoff.Proofs.Session.Figures
import Handoff.Proofs.Session.Gathering
import Handoff.Proofs.Session.IconImport
import Handoff.Proofs.Session.Icons
import Handoff.Proofs.Session.ImportedIcons
import Handoff.Proofs.Session.Isolation
import Handoff.Proofs.Session.Load
import Handoff.Proofs.Session.Pass
import Handoff.Proofs.Session.Progress
import Handoff.Proofs.Session.Provenance
import Handoff.Proofs.Session.Quiet
import Handoff.Proofs.Session.Reload
import Handoff.Proofs.Session.Repetition
import Handoff.Proofs.Session.Reports
import Handoff.Proofs.Session.Resume
import Handoff.Proofs.Session.Revision
import Handoff.Proofs.Session.Roster
import Handoff.Proofs.Session.Scope
import Handoff.Proofs.Style.Patch
import Handoff.Proofs.Text.IconName
import Handoff.Proofs.Text.Identifier
import Handoff.Proofs.Text.Naming
import Handoff.Proofs.Text.Split
import Handoff.Proofs.Text.Words
import Handoff.Proofs.Theme.Merging
import Handoff.Proofs.Theme.References
import Handoff.Proofs.Theme.Token
import Handoff.Proofs.Variant.Key
import Handoff.Scene.Arrangement
import Handoff.Scene.Asset
import Handoff.Scene.Builder
import Handoff.Scene.Change
import Handoff.Scene.Document
import Handoff.Scene.DocumentJson
import Handoff.Scene.Edit
import Handoff.Scene.Icons
import Handoff.Scene.Kind
import Handoff.Scene.Linking
import Handoff.Scene.Node
import Handoff.Scene.NodeJson
import Handoff.Scene.Paint
import Handoff.Scene.Property
import Handoff.Scene.PropertyJson
import Handoff.Scene.PropertyOrder
import Handoff.Scene.TextStyle
import Handoff.Scene.Variable
import Handoff.Session.Basic
import Handoff.Session.Event
import Handoff.Session.Output
import Handoff.Session.Pass
import Handoff.Session.Project
import Handoff.Settings
import Handoff.Style.Resolve
import Handoff.Style.Sheet
import Handoff.Text.Case
import Handoff.Text.HexDigit
import Handoff.Text.IconName
import Handoff.Text.Identifier
import Handoff.Text.Quoted
import Handoff.Text.Split
import Handoff.Theme.Module
import Handoff.Theme.Token
import Handoff.Toml.Reader
import Handoff.Toml.Scalar
import Handoff.Toml.Table
import Handoff.Toml.Text
import Handoff.Unicode.Case
import Handoff.Unicode.CaseMap
import Handoff.Unicode.Letter
import Handoff.Unicode.Span
import Handoff.Variant.Key
