import SqlBinding.Numeric.Integer
import SqlBinding.Numeric.Binary.Shortest
import SqlBinding.Text.Basic
import SqlBinding.Text.Hex
import SqlBinding.Text.Utf8
import SqlBinding.Time.Scanning
import SqlBinding.SqlArray.Flat
import SqlBinding.SqlArray.Nested
import SqlBinding.SqlArray.OnePass
import SqlBinding.Argument.Conversion
import SqlBinding.Statement
import SqlBinding.Column.Family
import SqlBinding.Record.Write
import SqlBinding.Record.Samples
import SqlBinding.Row.Fetch
import SqlBinding.Session.Dialogue
import SqlBinding.Scripted.Database
import SqlBinding.Options
import SqlBinding.Sqlite.Connection
import SqlBinding.CommandLine.Run
import SqlBinding.Main
import SqlBinding.Proofs.Outcome
import SqlBinding.Proofs.Numeric.DecimalText
import SqlBinding.Proofs.Numeric.Rounding
import SqlBinding.Proofs.Numeric.ShortestText
import SqlBinding.Proofs.Text.Runs
import SqlBinding.Proofs.Time.Exchange
import SqlBinding.Proofs.Time.OffsetArithmetic
import SqlBinding.Proofs.Time.Scanning
import SqlBinding.Proofs.Statement.Substitution
import SqlBinding.Proofs.Statement.ValueGroup
import SqlBinding.Proofs.Statement.Batch
import SqlBinding.Proofs.Literal.Reader
import SqlBinding.Proofs.Literal.Quoting
import SqlBinding.Proofs.Literal.Arguments
import SqlBinding.Proofs.Literal.Containment
import SqlBinding.Proofs.Literal.Lists
import SqlBinding.Proofs.SqlArray.Language
import SqlBinding.Proofs.SqlArray.Parsing
import SqlBinding.Proofs.SqlArray.Scanning
import SqlBinding.Proofs.SqlArray.Elements
import SqlBinding.Proofs.SqlArray.RoundTrip
import SqlBinding.Proofs.NameMap
import SqlBinding.Proofs.Column.Delivery
import SqlBinding.Proofs.Column.Refusal
import SqlBinding.Proofs.Record.Paths
import SqlBinding.Proofs.Record.Registration
import SqlBinding.Proofs.Record.Writes
import SqlBinding.Proofs.Record.Locality
import SqlBinding.Proofs.Record.ColumnOrder
import SqlBinding.Proofs.Record.Contents
import SqlBinding.Proofs.Row.Fetching
import SqlBinding.Proofs.Row.Agreement
import SqlBinding.Proofs.Row.Cardinality
import SqlBinding.Proofs.Session.Appending
import SqlBinding.Proofs.Session.Bodies
import SqlBinding.Proofs.Sqlite.Rollback
import SqlBinding.Proofs.Session.Transactions
import SqlBinding.Proofs.SqlArray.WrittenBack
import SqlBinding.Proofs.SqlArray.FlatRoundTrip
import SqlBinding.Proofs.SqlArray.Agreement
import SqlBinding.Proofs.Session.Sending
import SqlBinding.Proofs.Affected.Memory
import SqlBinding.Proofs.Sqlite.Lexing
import SqlBinding.Proofs.Sqlite.Reading
import SqlBinding.Proofs.Sqlite.Storing
import SqlBinding.Proofs.Sqlite.ReadBack
import SqlBinding.Proofs.SqlArray.Spellings
import SqlBinding.Proofs.Column.Integers
import SqlBinding.Proofs.CommandLine.IntegerLists
import SqlBinding.Proofs.Record.UnknownPaths
import SqlBinding.Proofs.Statement.Returning
import SqlBinding.Proofs.Column.Families
import SqlBinding.Proofs.Row.Width
import SqlBinding.Proofs.Row.Maps
import SqlBinding.Proofs.SqlArray.Rebuilding
