import SqlTemplate.Builder
import SqlTemplate.Calendar.Date
import SqlTemplate.Calendar.Time
import SqlTemplate.Class.Basic
import SqlTemplate.Class.Order
import SqlTemplate.Config
import SqlTemplate.Dispatcher
import SqlTemplate.Entity
import SqlTemplate.Failure
import SqlTemplate.Json.Encode
import SqlTemplate.Literal.Write
import SqlTemplate.Literal.Writer
import SqlTemplate.Literal.Written
import SqlTemplate.Log.Directive
import SqlTemplate.Log.Line
import SqlTemplate.Log.Message
import SqlTemplate.Log.Record
import SqlTemplate.Log.Setup
import SqlTemplate.Number.Binary64
import SqlTemplate.Number.Decimal
import SqlTemplate.Number.Rounding
import SqlTemplate.Overlay
import SqlTemplate.Proofs.Builder.Argument
import SqlTemplate.Proofs.Builder.Columns
import SqlTemplate.Proofs.Builder.Interleaving
import SqlTemplate.Proofs.Builder.LifeCycle
import SqlTemplate.Proofs.Builder.Operation
import SqlTemplate.Proofs.Builder.Outcome
import SqlTemplate.Proofs.Builder.Reason
import SqlTemplate.Proofs.Builder.Run
import SqlTemplate.Proofs.Builder.Substitution
import SqlTemplate.Proofs.Builder.Verbatim
import SqlTemplate.Proofs.Calendar.Civil
import SqlTemplate.Proofs.Calendar.Ordinal
import SqlTemplate.Proofs.Calendar.Stamp
import SqlTemplate.Proofs.Class.Linearisation
import SqlTemplate.Proofs.Config
import SqlTemplate.Proofs.Dispatcher.Memory
import SqlTemplate.Proofs.Dispatcher.Specific
import SqlTemplate.Proofs.Ends
import SqlTemplate.Proofs.Json.Encode
import SqlTemplate.Proofs.Json.Reader
import SqlTemplate.Proofs.Lexical.Interference
import SqlTemplate.Proofs.Lexical.Pieces
import SqlTemplate.Proofs.Lexical.Scan
import SqlTemplate.Proofs.Literal.Alike
import SqlTemplate.Proofs.Literal.Atoms
import SqlTemplate.Proofs.Literal.ByteContent
import SqlTemplate.Proofs.Literal.CivilTimes
import SqlTemplate.Proofs.Literal.FirstFault
import SqlTemplate.Proofs.Literal.Layout
import SqlTemplate.Proofs.Literal.Obstacle
import SqlTemplate.Proofs.Literal.Reach
import SqlTemplate.Proofs.Literal.Reader
import SqlTemplate.Proofs.Literal.Registration
import SqlTemplate.Proofs.Literal.RoundTrip
import SqlTemplate.Proofs.Literal.Sets
import SqlTemplate.Proofs.Literal.Spelling
import SqlTemplate.Proofs.Literal.Tree
import SqlTemplate.Proofs.Literal.Written
import SqlTemplate.Proofs.Log.Lines
import SqlTemplate.Proofs.Log.Message
import SqlTemplate.Proofs.Log.Setup
import SqlTemplate.Proofs.Number.Positional
import SqlTemplate.Proofs.Number.Token
import SqlTemplate.Proofs.Overlay
import SqlTemplate.Proofs.Query.Facade
import SqlTemplate.Proofs.Query.Message
import SqlTemplate.Proofs.Query.Shown
import SqlTemplate.Proofs.Query.Warning
import SqlTemplate.Proofs.Raising
import SqlTemplate.Proofs.Row.Agreement
import SqlTemplate.Proofs.Row.Chain
import SqlTemplate.Proofs.Row.Declared
import SqlTemplate.Proofs.Row.Identifiers
import SqlTemplate.Proofs.Row.Joined
import SqlTemplate.Proofs.Row.Kinds
import SqlTemplate.Proofs.Row.Memory
import SqlTemplate.Proofs.Sorting
import SqlTemplate.Proofs.Sorting.Agreement
import SqlTemplate.Proofs.Sorting.Ascending
import SqlTemplate.Proofs.Template.Canonical
import SqlTemplate.Proofs.Template.Collapse
import SqlTemplate.Proofs.Text.Blank
import SqlTemplate.Proofs.Text.Escape
import SqlTemplate.Proofs.Text.Quoted
import SqlTemplate.Proofs.Text.Replace
import SqlTemplate.Proofs.Value.Comparison
import SqlTemplate.Proofs.Value.Interchange
import SqlTemplate.Proofs.Value.Order
import SqlTemplate.Proofs.Value.Shape
import SqlTemplate.Query
import SqlTemplate.Raising
import SqlTemplate.Recent
import SqlTemplate.Row.Declaration
import SqlTemplate.Row.Fields
import SqlTemplate.Row.Lookup
import SqlTemplate.Sorting
import SqlTemplate.Template
import SqlTemplate.Text.Blank
import SqlTemplate.Text.Digits
import SqlTemplate.Text.Display
import SqlTemplate.Text.LetterCase
import SqlTemplate.Text.Name
import SqlTemplate.Text.Printable
import SqlTemplate.Text.Quoted
import SqlTemplate.Text.Replace
import SqlTemplate.Value.Basic
import SqlTemplate.Value.Conversion
import SqlTemplate.Value.Display
import SqlTemplate.Value.Equality
import SqlTemplate.Value.Instance
import SqlTemplate.Value.Order
