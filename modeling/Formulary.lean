import Formulary.Bitmap
import Formulary.Cache
import Formulary.Color
import Formulary.CommandLine.Arguments
import Formulary.CommandLine.Inputs
import Formulary.CommandLine.Json
import Formulary.CommandLine.Program
import Formulary.CommandLine.Report
import Formulary.Document.Key
import Formulary.Document.Loaded
import Formulary.Document.Phase
import Formulary.Document.Placement
import Formulary.Entry.Basic
import Formulary.Entry.MathStyle
import Formulary.Error.Application
import Formulary.Error.Consistency
import Formulary.Error.Job
import Formulary.Files.Locator
import Formulary.Files.Path
import Formulary.Files.Tree
import Formulary.Hash.Sha256
import Formulary.Location.Index
import Formulary.Location.Map
import Formulary.Location.Range
import Formulary.Main
import Formulary.Markdown.Autolink
import Formulary.Markdown.Block
import Formulary.Markdown.Cursor
import Formulary.Markdown.Document
import Formulary.Markdown.Emphasis
import Formulary.Markdown.EntityNames
import Formulary.Markdown.Escape
import Formulary.Markdown.Glyph
import Formulary.Markdown.Html
import Formulary.Markdown.Inline
import Formulary.Markdown.Link
import Formulary.Markdown.Opening
import Formulary.Markdown.Prose
import Formulary.Markdown.Reader
import Formulary.Markdown.Row
import Formulary.Markup.Alteration
import Formulary.Markup.Extraction
import Formulary.Markup.Outline
import Formulary.Markup.Placeholder
import Formulary.Markup.Reformat
import Formulary.Markup.Segment
import Formulary.Markup.Tree
import Formulary.Number.Binary
import Formulary.Number.Binary32
import Formulary.Number.Duration
import Formulary.Proofs.Cache
import Formulary.Proofs.Cache.Accounting
import Formulary.Proofs.Cache.Calls
import Formulary.Proofs.Cache.History
import Formulary.Proofs.Cache.Recency
import Formulary.Proofs.Color
import Formulary.Proofs.Document.Blocks
import Formulary.Proofs.Document.Loading
import Formulary.Proofs.Document.Outline
import Formulary.Proofs.Files.Locator
import Formulary.Proofs.Files.Tree
import Formulary.Proofs.Location.Key
import Formulary.Proofs.Location.Map
import Formulary.Proofs.Location.Naming
import Formulary.Proofs.Markup.Additions
import Formulary.Proofs.Markup.Attempt
import Formulary.Proofs.Markup.Claim
import Formulary.Proofs.Markup.Contents
import Formulary.Proofs.Markup.Conversion
import Formulary.Proofs.Markup.Extraction
import Formulary.Proofs.Markup.Fences
import Formulary.Proofs.Markup.Fragments
import Formulary.Proofs.Markup.Layout
import Formulary.Proofs.Markup.Minting
import Formulary.Proofs.Markup.Outline
import Formulary.Proofs.Markup.Pieces
import Formulary.Proofs.Markup.Position
import Formulary.Proofs.Markup.Scan
import Formulary.Proofs.Markup.Search
import Formulary.Proofs.Markup.Shape
import Formulary.Proofs.Markup.Tiling
import Formulary.Proofs.Markup.Tokens
import Formulary.Proofs.Raster.Limit
import Formulary.Proofs.Render.CacheKey
import Formulary.Proofs.Render.Gate
import Formulary.Proofs.Render.Guard
import Formulary.Proofs.Render.Holding
import Formulary.Proofs.Render.Keeping
import Formulary.Proofs.Render.Origin
import Formulary.Proofs.Render.Outcomes
import Formulary.Proofs.Render.Plan
import Formulary.Proofs.Render.Registry
import Formulary.Proofs.Session.Agreement
import Formulary.Proofs.Session.Arrivals
import Formulary.Proofs.Session.Batch
import Formulary.Proofs.Session.Capacity
import Formulary.Proofs.Session.Chronicle
import Formulary.Proofs.Session.Closing
import Formulary.Proofs.Session.Completion
import Formulary.Proofs.Session.Event
import Formulary.Proofs.Session.Frame
import Formulary.Proofs.Session.Isolation
import Formulary.Proofs.Session.Loading
import Formulary.Proofs.Session.Overlap
import Formulary.Proofs.Session.Phases
import Formulary.Proofs.Session.Progress
import Formulary.Proofs.Session.Resolution
import Formulary.Proofs.Session.Slots
import Formulary.Proofs.Session.Step
import Formulary.Proofs.Session.Valid
import Formulary.Proofs.Session.Writing
import Formulary.Proofs.Table
import Formulary.Proofs.Text.Digits
import Formulary.Proofs.Text.Split
import Formulary.Proofs.Text.Whitespace
import Formulary.Raster.Checksum
import Formulary.Raster.Decode
import Formulary.Raster.Gif
import Formulary.Raster.Inflate
import Formulary.Raster.Png
import Formulary.Raster.Svg
import Formulary.Raster.Xml
import Formulary.Render.Fetcher
import Formulary.Render.Gate
import Formulary.Render.Guard
import Formulary.Render.Latex
import Formulary.Render.Outcome
import Formulary.Render.Plan
import Formulary.Render.Rasteriser
import Formulary.Render.Registry
import Formulary.Render.Request
import Formulary.Render.Slots
import Formulary.Render.StandIn
import Formulary.Session.Advance
import Formulary.Session.Basic
import Formulary.Session.Resolve
import Formulary.Session.Run
import Formulary.Session.Script
import Formulary.Settings.Basic
import Formulary.Settings.Conversion
import Formulary.Settings.Ini
import Formulary.Settings.Json
import Formulary.Settings.Level
import Formulary.Settings.Sources
import Formulary.Settings.Toml
import Formulary.Settings.Value
import Formulary.Settings.Yaml
import Formulary.Table
import Formulary.Text.Bytes
import Formulary.Text.CaseFold
import Formulary.Text.CharClass
import Formulary.Text.Combining
import Formulary.Text.Digits
import Formulary.Text.Hidden
import Formulary.Text.Punctuation
import Formulary.Text.Quoted
import Formulary.Text.Split
import Formulary.Text.Utf8
import Formulary.Text.Whitespace
import Formulary.Url.Address
import Formulary.Url.Domain
import Formulary.Url.Percent
import Formulary.Url.Punycode
import Formulary.Url.WebUrl
import Formulary.Uuid
import Formulary.Proofs.Raster.Size
import Formulary.Proofs.Session.Placements
