import MarkdownAdf.Converter
import MarkdownAdf.Environment.Basic
import MarkdownAdf.Environment.File
import MarkdownAdf.Files.Error
import MarkdownAdf.Files.Options
import MarkdownAdf.Files.Path
import MarkdownAdf.Files.Tree
import MarkdownAdf.Log.Event
import MarkdownAdf.Log.Record
import MarkdownAdf.Log.Setup
import MarkdownAdf.Markdown.Atom
import MarkdownAdf.Markdown.BareLink
import MarkdownAdf.Markdown.Block
import MarkdownAdf.Markdown.Delimiter
import MarkdownAdf.Markdown.EntityName
import MarkdownAdf.Markdown.Escape
import MarkdownAdf.Markdown.Host
import MarkdownAdf.Markdown.Inline
import MarkdownAdf.Markdown.Leaf
import MarkdownAdf.Markdown.Line
import MarkdownAdf.Markdown.Reader
import MarkdownAdf.Markdown.Scope
import MarkdownAdf.Markdown.Target
import MarkdownAdf.Markdown.Url
import MarkdownAdf.Node.Basic
import MarkdownAdf.Node.Build
import MarkdownAdf.Node.LocalId
import MarkdownAdf.Node.Merge
import MarkdownAdf.Node.Record
import MarkdownAdf.Number.Binary64
import MarkdownAdf.Number.Shortest
import MarkdownAdf.Options.Basic
import MarkdownAdf.Options.Error
import MarkdownAdf.Options.Profile
import MarkdownAdf.Outline.Basic
import MarkdownAdf.Outline.Reader
import MarkdownAdf.Preset
import MarkdownAdf.Resolve.Block
import MarkdownAdf.Resolve.Inline
import MarkdownAdf.Resolve.Leaf
import MarkdownAdf.Resolve.Outcome
import MarkdownAdf.Resolve.Table
import MarkdownAdf.Text.Blank
import MarkdownAdf.Text.Case
import MarkdownAdf.Text.Checkbox
import MarkdownAdf.Text.Digit
import MarkdownAdf.Text.Fold
import MarkdownAdf.Text.Lines
import MarkdownAdf.Text.Printable
import MarkdownAdf.Text.Punctuation
import MarkdownAdf.Text.Punycode
import MarkdownAdf.Text.Quoted
import MarkdownAdf.Token.Basic
import MarkdownAdf.Token.Inline
import MarkdownAdf.Token.Task
import MarkdownAdf.Value.Attributes
import MarkdownAdf.Value.Basic
import MarkdownAdf.Value.Printer
import MarkdownAdf.Value.Same
import MarkdownAdf.Warning
import MarkdownAdf.Yaml.Cursor
import MarkdownAdf.Yaml.Printer.Text
import MarkdownAdf.Yaml.Printer.Value
import MarkdownAdf.Yaml.Scalar.Block
import MarkdownAdf.Yaml.Scalar.Form
import MarkdownAdf.Yaml.Scalar.Number
import MarkdownAdf.Yaml.Scalar.Plain
import MarkdownAdf.Yaml.Scalar.Quoted
import MarkdownAdf.Yaml.Scalar.Stamp
import MarkdownAdf.Yaml.Tag
import MarkdownAdf.Yaml.Token.Basic
import MarkdownAdf.Yaml.Token.Name
import MarkdownAdf.Yaml.Token.Reader
import MarkdownAdf.Yaml.Tree
import MarkdownAdf.Yaml.Value
import MarkdownAdf.Proofs.Outline.Reading
import MarkdownAdf.Proofs.Resolve.Outcome
import MarkdownAdf.Proofs.Resolve.Tree
import MarkdownAdf.Proofs.Document.Schema
import MarkdownAdf.Proofs.Resolve.Strict
import MarkdownAdf.Proofs.Resolve.Inline
import MarkdownAdf.Proofs.Document.Conformance
import MarkdownAdf.Proofs.Node.Build
import MarkdownAdf.Proofs.Node.Text
import MarkdownAdf.Proofs.Outline.Text
import MarkdownAdf.Proofs.Resolve.Text
import MarkdownAdf.Proofs.Node.Runs
import MarkdownAdf.Proofs.Resolve.Marks
import MarkdownAdf.Proofs.Document.Runs
import MarkdownAdf.Proofs.Document.Totality
import MarkdownAdf.Proofs.Outline.Nesting
import MarkdownAdf.Proofs.Outline.Truncation
import MarkdownAdf.Proofs.Resolve.Truncation
import MarkdownAdf.Drawing
import MarkdownAdf.Proofs.Node.LocalIds
import MarkdownAdf.Proofs.Resolve.Agreement
import MarkdownAdf.Proofs.Document.LocalIds
import MarkdownAdf.Proofs.Resolve.Leaves
import MarkdownAdf.Proofs.Text.Lines
import MarkdownAdf.Proofs.Document.RuleSource
import MarkdownAdf.Proofs.Resolve.LeafNodes
import MarkdownAdf.Proofs.Node.Kind
import MarkdownAdf.Proofs.Node.Language
import MarkdownAdf.Proofs.Resolve.Display
import MarkdownAdf.Proofs.Resolve.Code
import MarkdownAdf.Proofs.Outline.Insertion
import MarkdownAdf.Proofs.Resolve.Insertion
import MarkdownAdf.Proofs.Options.Mapping
import MarkdownAdf.Proofs.Files.Tree
import MarkdownAdf.Proofs.Options.Resolution
import MarkdownAdf.Proofs.Yaml.Writing
import MarkdownAdf.Proofs.Options.RoundTrip
import MarkdownAdf.Proofs.Log.Delivery
import MarkdownAdf.Proofs.Options.Loading
import MarkdownAdf.Proofs.Log.Failure
import MarkdownAdf.Proofs.Outline.Balance
import MarkdownAdf.Proofs.Outline.Closing
import MarkdownAdf.Proofs.Resolve.Lists
import MarkdownAdf.Proofs.Resolve.Task
import MarkdownAdf.Proofs.Value.Same
import MarkdownAdf.Proofs.Node.Record
import MarkdownAdf.Proofs.Resolve.Heading
import MarkdownAdf.Proofs.Files.Path
import MarkdownAdf.Proofs.Files.Directories
import MarkdownAdf.Proofs.Options.Saving
import MarkdownAdf.Proofs.Text.Blank
import MarkdownAdf.Proofs.Text.Digit
import MarkdownAdf.Proofs.Environment.Flag
import MarkdownAdf.Proofs.Environment.Reading
import MarkdownAdf.Proofs.Node.Merge
import MarkdownAdf.Proofs.Resolve.Composition
