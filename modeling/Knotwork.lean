import Knotwork.Artifact.Document
import Knotwork.Artifact.Format
import Knotwork.Artifact.Passages
import Knotwork.Command.Arguments
import Knotwork.Command.Execute
import Knotwork.Command.Invocation
import Knotwork.Command.Session
import Knotwork.Condition
import Knotwork.Decimal.Binary
import Knotwork.Decimal.Fixed
import Knotwork.Decimal.Shortest
import Knotwork.Diagram.Basic
import Knotwork.Diagram.Dot
import Knotwork.Diagram.Mermaid
import Knotwork.Digest.NameId
import Knotwork.Digest.Sha1
import Knotwork.Fault
import Knotwork.Feedback
import Knotwork.Folder
import Knotwork.Identity
import Knotwork.Journal.Basic
import Knotwork.Journal.Entry
import Knotwork.Journal.Template
import Knotwork.Library.Arguments
import Knotwork.Library.Basic
import Knotwork.Library.Console.Emoji
import Knotwork.Library.Console.Markup
import Knotwork.Library.Console.Parameters
import Knotwork.Library.Console.Pictures
import Knotwork.Library.Console.Sequence
import Knotwork.Library.Console.Style
import Knotwork.Library.Events
import Knotwork.Library.Markdown.Block
import Knotwork.Library.Markdown.Html
import Knotwork.Library.Markdown.Line
import Knotwork.Library.Markdown.Progress
import Knotwork.Library.Markdown.Reference
import Knotwork.Library.Standard
import Knotwork.Library.Trace
import Knotwork.Library.Yaml.Content
import Knotwork.Library.Yaml.Cursor
import Knotwork.Library.Yaml.Meaning
import Knotwork.Library.Yaml.Node
import Knotwork.Library.Yaml.Scalar
import Knotwork.Library.Yaml.Token
import Knotwork.Main
import Knotwork.Path
import Knotwork.Script.Basic
import Knotwork.Script.Outline
import Knotwork.Script.Reader
import Knotwork.Settings.Basic
import Knotwork.Settings.File
import Knotwork.State
import Knotwork.Story.Basic
import Knotwork.Story.Compile
import Knotwork.Story.Explore
import Knotwork.Story.Failure
import Knotwork.Story.Play
import Knotwork.Story.Report
import Knotwork.Story.Summary
import Knotwork.Table
import Knotwork.Text.Basic
import Knotwork.Text.Blank
import Knotwork.Text.Case
import Knotwork.Text.Cut
import Knotwork.Text.Lines
import Knotwork.Text.Lower
import Knotwork.Text.Order
import Knotwork.Text.Printable
import Knotwork.Text.Quoted
import Knotwork.Text.Similar
import Knotwork.Value.Basic
import Knotwork.Value.Json
import Knotwork.Value.Literal
import Knotwork.Value.Moment
import Knotwork.Variable
import Knotwork.Proofs.Absence
import Knotwork.Proofs.Braces
import Knotwork.Proofs.Canonical
import Knotwork.Proofs.Choices
import Knotwork.Proofs.Collapse
import Knotwork.Proofs.Cutting
import Knotwork.Proofs.Discovery
import Knotwork.Proofs.Document
import Knotwork.Proofs.DotText
import Knotwork.Proofs.Escaping
import Knotwork.Proofs.Exploration
import Knotwork.Proofs.Failure
import Knotwork.Proofs.Faults
import Knotwork.Proofs.Feeding
import Knotwork.Proofs.Files
import Knotwork.Proofs.Grammar
import Knotwork.Proofs.History
import Knotwork.Proofs.Identity
import Knotwork.Proofs.Json
import Knotwork.Proofs.Layers
import Knotwork.Proofs.Links
import Knotwork.Proofs.Lists
import Knotwork.Proofs.MermaidText
import Knotwork.Proofs.Moves
import Knotwork.Proofs.Naming
import Knotwork.Proofs.Order
import Knotwork.Proofs.Passages
import Knotwork.Proofs.Play
import Knotwork.Proofs.Publishing
import Knotwork.Proofs.Reading
import Knotwork.Proofs.Rendering
import Knotwork.Proofs.Reordering
import Knotwork.Proofs.Replacing
import Knotwork.Proofs.Replay
import Knotwork.Proofs.Report
import Knotwork.Proofs.Residue
import Knotwork.Proofs.Sections
import Knotwork.Proofs.Sessions
import Knotwork.Proofs.Shuffling
import Knotwork.Proofs.State
import Knotwork.Proofs.Summary
import Knotwork.Proofs.Table
import Knotwork.Proofs.Termination
import Knotwork.Proofs.Text
import Knotwork.Proofs.Titles
import Knotwork.Proofs.Unbroken
import Knotwork.Proofs.Unseen
import Knotwork.Proofs.Validation
import Knotwork.Proofs.Walks
