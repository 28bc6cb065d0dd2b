import ReleaseNotes.Result
import ReleaseNotes.Text.Blank
import ReleaseNotes.Text.Digit
import ReleaseNotes.Markup.Document
import ReleaseNotes.Markup.Xhtml
import ReleaseNotes.Markup.Graft
import ReleaseNotes.Markup.Place
import ReleaseNotes.Files
import ReleaseNotes.Tracker.Report
import ReleaseNotes.Vocabulary
import ReleaseNotes.Number.Shortest
import ReleaseNotes.Number.Scientific
import ReleaseNotes.Number.Run
import ReleaseNotes.Data.Value
import ReleaseNotes.Data.Complaint
import ReleaseNotes.Data.Check
import ReleaseNotes.Markup.Edit
import ReleaseNotes.Markup.Excerpt
import ReleaseNotes.Summary
import ReleaseNotes.Tracker.Note
import ReleaseNotes.Text.Letter
import ReleaseNotes.Text.Cased
import ReleaseNotes.Text.Case
import ReleaseNotes.Template.Value
import ReleaseNotes.Template.Token
import ReleaseNotes.Template.Grammar
import ReleaseNotes.Template.Statements
import ReleaseNotes.Template.Scope
import ReleaseNotes.Template.Operation
import ReleaseNotes.Number.Whole
import ReleaseNotes.Template.Filter
import ReleaseNotes.Template.Render
import ReleaseNotes.Template.Language
import ReleaseNotes.Data.Toml.Document
import ReleaseNotes.Settings.Basic
import ReleaseNotes.Settings.Read
import ReleaseNotes.Markup.Move
import ReleaseNotes.Pamphlet.Element
import ReleaseNotes.Pamphlet.Basic
import ReleaseNotes.Terminal.Width
import ReleaseNotes.Terminal.Tag
import ReleaseNotes.Terminal.Line
import ReleaseNotes.Download.Failure
import ReleaseNotes.Download.Host
import ReleaseNotes.Download.Exchange
import ReleaseNotes.Download.Fetch
import ReleaseNotes.Assembly.Basic
import ReleaseNotes.Assembly.Step
import ReleaseNotes.Assembly.Run
import ReleaseNotes.Text.Likeness
import ReleaseNotes.Command.Line
import ReleaseNotes.Command.Page
import ReleaseNotes.Settings.Sample
import ReleaseNotes.Command.Basic
import ReleaseNotes.Command.Generate
import ReleaseNotes.Command.MakeSettings
import ReleaseNotes.Command.Run
import ReleaseNotes.Main
import ReleaseNotes.Proofs.Run
import ReleaseNotes.Proofs.Place
import ReleaseNotes.Proofs.Growth
import ReleaseNotes.Proofs.Layout
import ReleaseNotes.Proofs.Addition
import ReleaseNotes.Proofs.Assembling
import ReleaseNotes.Proofs.AppendOnly
import ReleaseNotes.Proofs.Heading
import ReleaseNotes.Proofs.Record
import ReleaseNotes.Proofs.Draft
import ReleaseNotes.Proofs.Shelter
import ReleaseNotes.Proofs.Filling
import ReleaseNotes.Proofs.Contents
import ReleaseNotes.Proofs.Routing
import ReleaseNotes.Proofs.Page
import ReleaseNotes.Proofs.Files
import ReleaseNotes.Proofs.Saving
import ReleaseNotes.Proofs.Showing
import ReleaseNotes.Proofs.Follows
import ReleaseNotes.Proofs.Checks
import ReleaseNotes.Proofs.Reporting
import ReleaseNotes.Proofs.Nesting
import ReleaseNotes.Proofs.Legal
import ReleaseNotes.Proofs.Demands
import ReleaseNotes.Proofs.Completeness
import ReleaseNotes.Proofs.Turns
import ReleaseNotes.Proofs.Requests
import ReleaseNotes.Proofs.Details
import ReleaseNotes.Proofs.Missing
import ReleaseNotes.Proofs.Escape
import ReleaseNotes.Proofs.Language
import ReleaseNotes.Proofs.Grammar
import ReleaseNotes.Proofs.Tables
import ReleaseNotes.Proofs.Loading
import ReleaseNotes.Proofs.Program
import ReleaseNotes.Proofs.Decoding
import ReleaseNotes.Proofs.Readable
import ReleaseNotes.Proofs.Spelling
import ReleaseNotes.Proofs.Written
import ReleaseNotes.Proofs.Rebuilding
import ReleaseNotes.Proofs.Reading
import ReleaseNotes.Proofs.Rereading
import ReleaseNotes.Proofs.Plain
import ReleaseNotes.Proofs.PlainPage
import ReleaseNotes.Proofs.ReadBack
import ReleaseNotes.Proofs.Chain
import ReleaseNotes.Proofs.Looks
import ReleaseNotes.Proofs.Exchange
import ReleaseNotes.Proofs.Quiet
import ReleaseNotes.Proofs.Generating
import ReleaseNotes.Proofs.Scoped
import ReleaseNotes.Proofs.Sound
import ReleaseNotes.Proofs.Cloning
import ReleaseNotes.Proofs.Lacking
import ReleaseNotes.Proofs.Evaluation
import ReleaseNotes.Proofs.Naming
import ReleaseNotes.Proofs.Undefined
import ReleaseNotes.Proofs.Fixed
import ReleaseNotes.Proofs.Dependence
import ReleaseNotes.Proofs.Validation
import ReleaseNotes.Proofs.Identifier
import ReleaseNotes.Proofs.Latest
import ReleaseNotes.Proofs.Exported
import ReleaseNotes.Proofs.Exploring
import ReleaseNotes.Proofs.Alike
import ReleaseNotes.Proofs.Lines
import ReleaseNotes.Proofs.Sentence
import ReleaseNotes.Proofs.Verbatim
import ReleaseNotes.Proofs.Order
import ReleaseNotes.Proofs.Sectioning
import ReleaseNotes.Proofs.Environment
