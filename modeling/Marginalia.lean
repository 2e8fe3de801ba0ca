import Marginalia.Assembly
import Marginalia.Command.Arguments
import Marginalia.Command.Failure
import Marginalia.Command.Run
import Marginalia.Discovery
import Marginalia.Document.Basic
import Marginalia.Document.PageMap
import Marginalia.Files.Host
import Marginalia.Files.Tree
import Marginalia.Files.World
import Marginalia.Language.Basic
import Marginalia.Language.Builtin
import Marginalia.Language.Catalogue
import Marginalia.Main
import Marginalia.Markdown.Container
import Marginalia.Markdown.Destination
import Marginalia.Markdown.Emphasis
import Marginalia.Markdown.Entity
import Marginalia.Markdown.Entity.Capital
import Marginalia.Markdown.Entity.SmallFirst
import Marginalia.Markdown.Entity.SmallLast
import Marginalia.Markdown.Event
import Marginalia.Markdown.Glyph
import Marginalia.Markdown.HtmlBlock
import Marginalia.Markdown.Label
import Marginalia.Markdown.Marker
import Marginalia.Markdown.Paragraph
import Marginalia.Markdown.Reader
import Marginalia.Markdown.Render
import Marginalia.Markdown.Source
import Marginalia.Markdown.Span
import Marginalia.Markdown.Table
import Marginalia.Markdown.Tag
import Marginalia.Markdown.Tree
import Marginalia.Outline.Anchor
import Marginalia.Outline.Basic
import Marginalia.Outline.Reference
import Marginalia.Page.Basic
import Marginalia.Page.Output
import Marginalia.Page.Parts
import Marginalia.Page.SearchIndex
import Marginalia.Page.SearchScript
import Marginalia.Page.Stylesheet
import Marginalia.Passage.Basic
import Marginalia.Passage.Classify
import Marginalia.Passage.Comment
import Marginalia.Passage.Segment
import Marginalia.Path.Basic
import Marginalia.Path.Pattern
import Marginalia.Proofs.Assembly.Conservation
import Marginalia.Proofs.Command.Overwriting
import Marginalia.Proofs.Command.Placing
import Marginalia.Proofs.Command.Rebuild
import Marginalia.Proofs.Command.Recognition
import Marginalia.Proofs.Command.Roots
import Marginalia.Proofs.Command.Writing
import Marginalia.Proofs.Discovery.Roots
import Marginalia.Proofs.Discovery.Visible
import Marginalia.Proofs.Discovery.Walking
import Marginalia.Proofs.Document.PagePath
import Marginalia.Proofs.Document.Placement
import Marginalia.Proofs.Document.Title
import Marginalia.Proofs.Files.Follow
import Marginalia.Proofs.Files.Make
import Marginalia.Proofs.Files.Spot
import Marginalia.Proofs.Files.Tree
import Marginalia.Proofs.Html.Element
import Marginalia.Proofs.Html.Escape
import Marginalia.Proofs.Html.Link
import Marginalia.Proofs.Html.Replacing
import Marginalia.Proofs.Html.Tally
import Marginalia.Proofs.Language.Claims
import Marginalia.Proofs.Language.History
import Marginalia.Proofs.Language.Holders
import Marginalia.Proofs.Language.Layers
import Marginalia.Proofs.Markdown.Growth
import Marginalia.Proofs.Markdown.Opening
import Marginalia.Proofs.Markdown.Walk
import Marginalia.Proofs.Markdown.Writer
import Marginalia.Proofs.Outline.Anchor
import Marginalia.Proofs.Outline.Destination
import Marginalia.Proofs.Outline.Heading
import Marginalia.Proofs.Outline.Numbering
import Marginalia.Proofs.Outline.Reference
import Marginalia.Proofs.Outline.Slug
import Marginalia.Proofs.Outline.Words
import Marginalia.Proofs.Page.Broken
import Marginalia.Proofs.Page.Files
import Marginalia.Proofs.Page.Heading
import Marginalia.Proofs.Page.Identifier
import Marginalia.Proofs.Page.Links
import Marginalia.Proofs.Page.Navigation
import Marginalia.Proofs.Page.Output
import Marginalia.Proofs.Page.Prose
import Marginalia.Proofs.Page.Search
import Marginalia.Proofs.Page.Shape
import Marginalia.Proofs.Passage.Depth
import Marginalia.Proofs.Passage.Folding
import Marginalia.Proofs.Passage.Guarded
import Marginalia.Proofs.Passage.Marker
import Marginalia.Proofs.Passage.Partition
import Marginalia.Proofs.Passage.Position
import Marginalia.Proofs.Passage.Progress
import Marginalia.Proofs.Passage.Runs
import Marginalia.Proofs.Passage.Scan
import Marginalia.Proofs.Passage.Selection
import Marginalia.Proofs.Passage.Settling
import Marginalia.Proofs.Passage.Stripping
import Marginalia.Proofs.Path.Joining
import Marginalia.Proofs.Path.Normal
import Marginalia.Proofs.Path.Relative
import Marginalia.Proofs.Path.Segments
import Marginalia.Proofs.Settings.Languages
import Marginalia.Proofs.Site.Address
import Marginalia.Proofs.Site.Arrival
import Marginalia.Proofs.Site.Clash
import Marginalia.Proofs.Site.Descent
import Marginalia.Proofs.Site.Entries
import Marginalia.Proofs.Site.FileAnchor
import Marginalia.Proofs.Site.Growth
import Marginalia.Proofs.Site.Hierarchy
import Marginalia.Proofs.Site.Indexing
import Marginalia.Proofs.Site.Location
import Marginalia.Proofs.Site.Order
import Marginalia.Proofs.Site.Places
import Marginalia.Proofs.Site.Sorting
import Marginalia.Proofs.Site.Surroundings
import Marginalia.Proofs.Text.ByteOrder
import Marginalia.Proofs.Text.Offset
import Marginalia.Proofs.Text.Pieces
import Marginalia.Proofs.Text.Start
import Marginalia.Proofs.Text.Trim
import Marginalia.Proofs.Text.Utf8
import Marginalia.Proofs.Url.Percent
import Marginalia.Report
import Marginalia.Settings
import Marginalia.Site.Basic
import Marginalia.Site.Contents
import Marginalia.Site.Navigation
import Marginalia.Text.Alphanumeric
import Marginalia.Text.Basic
import Marginalia.Text.CaseFold
import Marginalia.Text.CodeRange
import Marginalia.Text.LowerCase
import Marginalia.Text.Punctuation
import Marginalia.Text.Utf8
import Marginalia.Toml.Document
import Marginalia.Toml.Quoted
import Marginalia.Toml.Value
import Marginalia.Url.Percent
