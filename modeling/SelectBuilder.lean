import SelectBuilder.Text.Blank
import SelectBuilder.Text.Quoted
import SelectBuilder.Text.Fragment
import SelectBuilder.Number.Numeral
import SelectBuilder.Number.Shortest
import SelectBuilder.Number.Decimal
import SelectBuilder.Calendar.Zone
import SelectBuilder.Calendar.Reading
import SelectBuilder.Text.Description
import SelectBuilder.Value
import SelectBuilder.Entries
import SelectBuilder.Column.Normalize
import SelectBuilder.Column.Literal
import SelectBuilder.Engine
import SelectBuilder.Error
import SelectBuilder.Model
import SelectBuilder.Condition.Basic
import SelectBuilder.Condition.Tree
import SelectBuilder.Condition.Description
import SelectBuilder.Query.Page
import SelectBuilder.Query.Aggregate
import SelectBuilder.Query.Memory
import SelectBuilder.Connection.Settings
import SelectBuilder.Connection.Http
import SelectBuilder.Proofs.Outcome
import SelectBuilder.Proofs.Condition.Meaning
import SelectBuilder.Proofs.Condition.Composition
import SelectBuilder.Proofs.Query.Filters
import SelectBuilder.Proofs.Condition.Reading
import SelectBuilder.Proofs.Column.Balance
import SelectBuilder.Proofs.Condition.Grouping
import SelectBuilder.Proofs.Calendar.Reading
import SelectBuilder.Proofs.Column.Domain
import SelectBuilder.Proofs.Column.Reading
import SelectBuilder.Proofs.Condition.Members
import SelectBuilder.Proofs.Condition.Operators
import SelectBuilder.Proofs.Column.Forms
import SelectBuilder.Proofs.Text.Like
import SelectBuilder.Proofs.Condition.Patterns
import SelectBuilder.Proofs.Condition.UnknownField
import SelectBuilder.Proofs.Text.OneLine
import SelectBuilder.Proofs.Condition.Lines
import SelectBuilder.Proofs.Query.Grouping
import SelectBuilder.Proofs.Query.Clauses
import SelectBuilder.Proofs.Condition.Parts
import SelectBuilder.Proofs.Query.Counting
import SelectBuilder.Proofs.Query.Statement
import SelectBuilder.Proofs.Text.Marks
import SelectBuilder.Proofs.Query.Window
import SelectBuilder.Proofs.Query.Memory
import SelectBuilder.Proofs.Query.Pages
import SelectBuilder.Proofs.Query.Listing
import SelectBuilder.Proofs.Query.Slices
import SelectBuilder.Proofs.Query.RowCount
import SelectBuilder.Proofs.Query.Derivation
import SelectBuilder.Proofs.Query.Aggregation
import SelectBuilder.Proofs.Condition.Keys
import SelectBuilder.Proofs.Condition.Bounds
import SelectBuilder.Proofs.Column.Null
import SelectBuilder.Proofs.Condition.NullTests
import SelectBuilder.Proofs.Condition.Exchange
import SelectBuilder.Proofs.Condition.Spellings
import SelectBuilder.Proofs.Condition.Sessions
import SelectBuilder.Proofs.Condition.Joining
import SelectBuilder.Proofs.Condition.Negation
import SelectBuilder.Proofs.Query.Columns
import SelectBuilder.Proofs.Connection.Templates
import SelectBuilder.Proofs.Text.Identifiers
import SelectBuilder.Proofs.Query.Names
import SelectBuilder.Proofs.Query.Ranges
import SelectBuilder.Proofs.Query.Places
import SelectBuilder.Proofs.Query.Failures
import SelectBuilder.Proofs.Text.Trimming
import SelectBuilder.Proofs.Number.Signed
import SelectBuilder.Proofs.Column.Integer
import SelectBuilder.Proofs.Column.Variants
import SelectBuilder.Proofs.Column.Conformance
import SelectBuilder.Proofs.Column.Idempotence
import SelectBuilder.Proofs.Condition.Renewal
import SelectBuilder.Proofs.Calendar.Days
import SelectBuilder.Proofs.Calendar.Instants
import SelectBuilder.Proofs.Column.Times
import SelectBuilder.Proofs.Column.Rereading
import SelectBuilder.Proofs.Document.Parts
import SelectBuilder.Proofs.Document.Space
import SelectBuilder.Proofs.Text.Lines
import SelectBuilder.Proofs.Connection.Rows
import SelectBuilder.Proofs.Number.Unsigned
import SelectBuilder.Proofs.Connection.Settings
