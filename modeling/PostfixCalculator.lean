import PostfixCalculator.Assembly
import PostfixCalculator.Batch.Evaluation
import PostfixCalculator.Batch.Folder
import PostfixCalculator.Batch.Listing
import PostfixCalculator.Batch.Loading
import PostfixCalculator.Batch.MediaTable
import PostfixCalculator.Batch.MediaType
import PostfixCalculator.Batch.Registry
import PostfixCalculator.Calculator
import PostfixCalculator.Command.Arguments
import PostfixCalculator.Command.Help
import PostfixCalculator.Command.Report
import PostfixCalculator.Command.Switch
import PostfixCalculator.Document.Calendar
import PostfixCalculator.Document.Cursor
import PostfixCalculator.Document.Json
import PostfixCalculator.Document.Json5
import PostfixCalculator.Document.Value
import PostfixCalculator.Document.Yaml.Base64
import PostfixCalculator.Document.Yaml.Construction
import PostfixCalculator.Document.Yaml.Layout
import PostfixCalculator.Document.Yaml.Meaning
import PostfixCalculator.Document.Yaml.Node
import PostfixCalculator.Document.Yaml.Place
import PostfixCalculator.Document.Yaml.Scalar
import PostfixCalculator.Document.Yaml.Source
import PostfixCalculator.Document.Yaml.Tag
import PostfixCalculator.Document.Yaml.Token
import PostfixCalculator.Expression
import PostfixCalculator.Fault
import PostfixCalculator.Infix
import PostfixCalculator.Main
import PostfixCalculator.Number.Binary
import PostfixCalculator.Number.Decimal
import PostfixCalculator.Number.Literal
import PostfixCalculator.Number.Reading
import PostfixCalculator.Number.Rendering
import PostfixCalculator.Operator
import PostfixCalculator.Postfix
import PostfixCalculator.Proofs.Acceptance
import PostfixCalculator.Proofs.Calculation
import PostfixCalculator.Proofs.Conversion
import PostfixCalculator.Proofs.Evaluation
import PostfixCalculator.Proofs.Grammar
import PostfixCalculator.Proofs.Layout
import PostfixCalculator.Proofs.Lexeme
import PostfixCalculator.Proofs.Number.Bits
import PostfixCalculator.Proofs.Number.Nearest
import PostfixCalculator.Proofs.Number.Shortest
import PostfixCalculator.Proofs.Number.Spelling
import PostfixCalculator.Proofs.Ordering
import PostfixCalculator.Proofs.Places
import PostfixCalculator.Proofs.Reading
import PostfixCalculator.Proofs.Serialization
import PostfixCalculator.Proofs.Text.Pieces
import PostfixCalculator.Proofs.Tokenizing
import PostfixCalculator.Proofs.Transparency
import PostfixCalculator.Reader
import PostfixCalculator.Run
import PostfixCalculator.Terminal.Code
import PostfixCalculator.Terminal.Printer
import PostfixCalculator.Terminal.Record
import PostfixCalculator.Terminal.Writer
import PostfixCalculator.Text.Blank
import PostfixCalculator.Text.Digit
import PostfixCalculator.Text.Identifier
import PostfixCalculator.Text.Line
import PostfixCalculator.Text.Lowercase
import PostfixCalculator.Text.Piece
import PostfixCalculator.Text.Printable
import PostfixCalculator.Text.Quoted
import PostfixCalculator.Text.Range
import PostfixCalculator.Text.Utf8
import PostfixCalculator.Token
import PostfixCalculator.Version
import PostfixCalculator.Proofs.Brackets
import PostfixCalculator.Proofs.Stopping
import PostfixCalculator.Proofs.Conservation
import PostfixCalculator.Proofs.Diagnosis
import PostfixCalculator.Proofs.Misspelling
import PostfixCalculator.Proofs.Streaming
import PostfixCalculator.Proofs.Cursor
import PostfixCalculator.Proofs.Text.Lines
import PostfixCalculator.Proofs.Terminal.Buffer
import PostfixCalculator.Proofs.Terminal.Display
import PostfixCalculator.Proofs.Terminal.Session
import PostfixCalculator.Proofs.Terminal.Weaving
import PostfixCalculator.Proofs.Equality
import PostfixCalculator.Proofs.Batch.Registration
import PostfixCalculator.Proofs.Plain
import PostfixCalculator.Proofs.Batch.Printing
import PostfixCalculator.Proofs.Batch.Answers
import PostfixCalculator.Proofs.Command.Reporting
import PostfixCalculator.Proofs.Command.Independence
import PostfixCalculator.Proofs.Command.Presentation
import PostfixCalculator.Proofs.Grouping
import PostfixCalculator.Proofs.Rendering
import PostfixCalculator.Proofs.Partners
import PostfixCalculator.Proofs.Delivery
import PostfixCalculator.Proofs.Number.Grammar
import PostfixCalculator.Proofs.Classification
import PostfixCalculator.Proofs.Terminal.Completion
import PostfixCalculator.Proofs.Batch.Persistence
import PostfixCalculator.Proofs.Batch.Paths
import PostfixCalculator.Proofs.Batch.Suffixes
import PostfixCalculator.Proofs.Batch.Extensions
import PostfixCalculator.Proofs.Waiting
import PostfixCalculator.Proofs.Assembling
import PostfixCalculator.Proofs.Batch.Documents
import PostfixCalculator.Proofs.Text.Encoding
import PostfixCalculator.Proofs.Batch.PlainText
import PostfixCalculator.Proofs.Batch.Readers
import PostfixCalculator.Proofs.Distinctness
