import RowQuery.Calendar.Date
import RowQuery.Calendar.DateTime
import RowQuery.Calendar.Reading
import RowQuery.Calendar.Writing
import RowQuery.Command.Action
import RowQuery.Command.Arguments
import RowQuery.Command.Completion
import RowQuery.Command.Config
import RowQuery.Command.Error
import RowQuery.Command.Input
import RowQuery.Command.Invocation
import RowQuery.Command.Query
import RowQuery.Command.Run
import RowQuery.Decimal.Digits
import RowQuery.Decimal.Notation
import RowQuery.Decimal.Reading
import RowQuery.Decimal.Shortest
import RowQuery.Files.Basic
import RowQuery.Files.Path
import RowQuery.Files.Tree
import RowQuery.Filter.Clause
import RowQuery.Filter.Error
import RowQuery.Filter.Evaluation
import RowQuery.Filter.Grouping
import RowQuery.Filter.Like
import RowQuery.Filter.Literal
import RowQuery.Filter.Operator
import RowQuery.Filter.Predicate
import RowQuery.Filter.Sql
import RowQuery.Filter.Token
import RowQuery.Json.Basic
import RowQuery.Json.Reader
import RowQuery.Json.Writer
import RowQuery.Main
import RowQuery.Named
import RowQuery.Page.Form
import RowQuery.Page.Link
import RowQuery.Page.Query
import RowQuery.Page.Request
import RowQuery.Page.Source
import RowQuery.Page.Table
import RowQuery.Page.Url
import RowQuery.Proofs.Calendar
import RowQuery.Proofs.Calendar.Counting
import RowQuery.Proofs.Calendar.Instants
import RowQuery.Proofs.Calendar.Offsets
import RowQuery.Proofs.Calendar.Trimming
import RowQuery.Proofs.Command.Action
import RowQuery.Proofs.Command.Configuration
import RowQuery.Proofs.Command.Ending
import RowQuery.Proofs.Command.Flags
import RowQuery.Proofs.Command.LinkUrl
import RowQuery.Proofs.Decimal
import RowQuery.Proofs.Files.Changes
import RowQuery.Proofs.Files.Places
import RowQuery.Proofs.Filter.Appending
import RowQuery.Proofs.Filter.Cells
import RowQuery.Proofs.Filter.Clauses
import RowQuery.Proofs.Filter.Collecting
import RowQuery.Proofs.Filter.Connectors
import RowQuery.Proofs.Filter.Cutting
import RowQuery.Proofs.Filter.Failing
import RowQuery.Proofs.Filter.Fields
import RowQuery.Proofs.Filter.Footprint
import RowQuery.Proofs.Filter.Grammar
import RowQuery.Proofs.Filter.Groups
import RowQuery.Proofs.Filter.Layout
import RowQuery.Proofs.Filter.Lists
import RowQuery.Proofs.Filter.Literals
import RowQuery.Proofs.Filter.Matching
import RowQuery.Proofs.Filter.Ordering
import RowQuery.Proofs.Filter.Parsing
import RowQuery.Proofs.Filter.Printing
import RowQuery.Proofs.Filter.Quoting
import RowQuery.Proofs.Filter.Rereading
import RowQuery.Proofs.Filter.Scanning
import RowQuery.Proofs.Filter.Shape
import RowQuery.Proofs.Filter.Splitting
import RowQuery.Proofs.Filter.Tiling
import RowQuery.Proofs.Filter.Typing
import RowQuery.Proofs.Filter.Writing
import RowQuery.Proofs.Page.Address
import RowQuery.Proofs.Page.Answer
import RowQuery.Proofs.Page.Back
import RowQuery.Proofs.Page.Carrying
import RowQuery.Proofs.Page.CellOrder
import RowQuery.Proofs.Page.Covering
import RowQuery.Proofs.Page.Following
import RowQuery.Proofs.Page.InOrder
import RowQuery.Proofs.Page.Links
import RowQuery.Proofs.Page.Parameters
import RowQuery.Proofs.Page.Preparing
import RowQuery.Proofs.Page.Walk
import RowQuery.Proofs.Report.Alignment
import RowQuery.Proofs.Report.Clear
import RowQuery.Proofs.Report.Colours
import RowQuery.Proofs.Result
import RowQuery.Proofs.Rows.Inference
import RowQuery.Proofs.Rows.Loading
import RowQuery.Proofs.Sorting.Insertion
import RowQuery.Proofs.Sorting.Merge
import RowQuery.Proofs.Sorting.Runs
import RowQuery.Proofs.Sql.Grammar
import RowQuery.Proofs.Sql.Hiding
import RowQuery.Proofs.Sql.Numbering
import RowQuery.Proofs.Sql.Pieces
import RowQuery.Proofs.Sql.Rendering
import RowQuery.Proofs.Sql.Values
import RowQuery.Proofs.Value
import RowQuery.Proofs.Value.Order
import RowQuery.Proofs.Value.Printing
import RowQuery.Report.Filter
import RowQuery.Report.Layout
import RowQuery.Report.Page
import RowQuery.Report.Settings
import RowQuery.Schema
import RowQuery.Settings
import RowQuery.Sorting.Insertion
import RowQuery.Sorting.Merge
import RowQuery.Sorting.Runs
import RowQuery.Text.Hex
import RowQuery.Text.Quoted
import RowQuery.Text.Space
import RowQuery.Text.Split
import RowQuery.Text.Utf8
import RowQuery.Text.Word
import RowQuery.Toml.Basic
import RowQuery.Toml.Document
import RowQuery.Toml.Reader
import RowQuery.Toml.Scalar
import RowQuery.Value.Basic
import RowQuery.Value.Reading
import RowQuery.Value.Text
