import EmbedScaffold.Main
import EmbedScaffold.Json.Writer
import EmbedScaffold.Shell.Job
import EmbedScaffold.Proofs.Text.Line
import EmbedScaffold.Proofs.Text.Realigned
import EmbedScaffold.Proofs.Token.Reading
import EmbedScaffold.Proofs.Token.Realigned
import EmbedScaffold.Proofs.Token.Lexeme
import EmbedScaffold.Proofs.Token.Document
import EmbedScaffold.Proofs.Registry.Entry
import EmbedScaffold.Proofs.Registry.Layout
import EmbedScaffold.Proofs.Registry.NewEntry
import EmbedScaffold.Proofs.Registry.Indent
import EmbedScaffold.Proofs.Registry.Edit
import EmbedScaffold.Proofs.Registry.Append
import EmbedScaffold.Proofs.Registry.Upsert
import EmbedScaffold.Proofs.Registry.View
import EmbedScaffold.Proofs.Registry.Content
import EmbedScaffold.Proofs.Registry.Declaration
import EmbedScaffold.Proofs.Registry.LastWrite
import EmbedScaffold.Proofs.Registry.Duplicates
import EmbedScaffold.Proofs.Registry.Runs
import EmbedScaffold.Proofs.Run.Commit
import EmbedScaffold.Proofs.Text.Utf8
import EmbedScaffold.Proofs.Run.Staging
import EmbedScaffold.Proofs.Run.AllOrNothing
import EmbedScaffold.Proofs.Run.Owner
import EmbedScaffold.Proofs.Component.Declared
import EmbedScaffold.Proofs.Run.Again
import EmbedScaffold.Proofs.Run.Settled
import EmbedScaffold.Proofs.Run.Report
import EmbedScaffold.Proofs.Registry.Frame
import EmbedScaffold.Proofs.Run.Preserved
import EmbedScaffold.Proofs.Switch.Branch
import EmbedScaffold.Proofs.Switch.Location
import EmbedScaffold.Proofs.Switch.Layout
import EmbedScaffold.Proofs.Switch.NewBranch
import EmbedScaffold.Proofs.Switch.Slot
import EmbedScaffold.Proofs.Switch.Upsert
import EmbedScaffold.Proofs.Switch.Content
import EmbedScaffold.Proofs.Switch.Execution
import EmbedScaffold.Proofs.Registry.HeaderLine
import EmbedScaffold.Proofs.Markup.ClosingTag
import EmbedScaffold.Proofs.Markup.Block
import EmbedScaffold.Proofs.Markup.Playground
import EmbedScaffold.Proofs.Script.Name
import EmbedScaffold.Proofs.Literal.Json
import EmbedScaffold.Proofs.Token.Insertion
import EmbedScaffold.Proofs.Token.Stretch
import EmbedScaffold.Proofs.Registry.Live
import EmbedScaffold.Proofs.Component.Script
import EmbedScaffold.Proofs.Component.Balanced
import EmbedScaffold.Proofs.Literal.Embedded
import EmbedScaffold.Proofs.Field.Merge
import EmbedScaffold.Proofs.Markup.Options
import EmbedScaffold.Proofs.Script.Plain
import EmbedScaffold.Proofs.Script.Fields
import EmbedScaffold.Proofs.Component.Reread
import EmbedScaffold.Proofs.Markup.Selection
import EmbedScaffold.Proofs.Remote.Push
import EmbedScaffold.Proofs.Remote.Request
import EmbedScaffold.Proofs.Remote.Branch
import EmbedScaffold.Proofs.Run.Push
import EmbedScaffold.Proofs.Run.Garbled
import EmbedScaffold.Proofs.Text.Digits
import EmbedScaffold.Proofs.Template.Rendering
import EmbedScaffold.Proofs.Literal.Snippet
import EmbedScaffold.Proofs.Literal.Rendered
import EmbedScaffold.Proofs.Schema.Snippets
import EmbedScaffold.Proofs.Token.Coverage
import EmbedScaffold.Proofs.Token.Declarations
import EmbedScaffold.Proofs.Registry.Declarations
import EmbedScaffold.Proofs.Registry.Prelude
import EmbedScaffold.Proofs.Schema.Constants
import EmbedScaffold.Proofs.Site.Path
import EmbedScaffold.Proofs.Json.Reading
import EmbedScaffold.Proofs.Settings.File
import EmbedScaffold.Proofs.Token.WellNested
import EmbedScaffold.Proofs.Token.Pairing
import EmbedScaffold.Proofs.Token.Spacing
import EmbedScaffold.Proofs.Token.Division
import EmbedScaffold.Proofs.Token.TopLevel
import EmbedScaffold.Proofs.Registry.Bounds
import EmbedScaffold.Proofs.Registry.Partition
import EmbedScaffold.Proofs.Text.Shifted
import EmbedScaffold.Proofs.Literal.Indented
import EmbedScaffold.Proofs.Site.Between
import EmbedScaffold.Proofs.Component.Import
import EmbedScaffold.Proofs.Schema.Described
import EmbedScaffold.Proofs.Registry.Outcome
import EmbedScaffold.Proofs.Run.Unchanged
import EmbedScaffold.Proofs.Token.Boundary
import EmbedScaffold.Proofs.Token.Search
import EmbedScaffold.Proofs.Switch.Key
import EmbedScaffold.Proofs.Script.Division
import EmbedScaffold.Proofs.Text.Case
import EmbedScaffold.Proofs.Name.PascalCase
import EmbedScaffold.Proofs.Name.LookupKey
