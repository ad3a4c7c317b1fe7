import FluentSql.Built
import FluentSql.Calendar
import FluentSql.Calendar.Reader
import FluentSql.Chain
import FluentSql.Chain.Reader
import FluentSql.Clause.Aggregate
import FluentSql.Clause.Join
import FluentSql.Clause.Order
import FluentSql.Column
import FluentSql.Config
import FluentSql.Config.Reader
import FluentSql.Config.Reference
import FluentSql.Config.Settings
import FluentSql.Connection
import FluentSql.Connection.Open
import FluentSql.Dialect
import FluentSql.Engine
import FluentSql.Error
import FluentSql.Error.Config
import FluentSql.Error.Decode
import FluentSql.Error.Misuse
import FluentSql.Executor
import FluentSql.Executor.Script
import FluentSql.Inflection
import FluentSql.Inflection.English
import FluentSql.Inflection.Pattern
import FluentSql.Inflection.SnakeCase
import FluentSql.Json
import FluentSql.Json.Access
import FluentSql.Json.Reader
import FluentSql.Json.Serialize
import FluentSql.Json.Token
import FluentSql.Logger
import FluentSql.Model
import FluentSql.Model.Query
import FluentSql.Model.Run
import FluentSql.Number.BigEndian
import FluentSql.Number.Double
import FluentSql.Number.FloatReader
import FluentSql.Number.FloatText
import FluentSql.Number.Shortest
import FluentSql.Number.Whole
import FluentSql.Operator
import FluentSql.OrderedMap
import FluentSql.Params
import FluentSql.Payload
import FluentSql.Placeholder
import FluentSql.Postgres.ColumnType
import FluentSql.Postgres.Decode
import FluentSql.Postgres.Encode
import FluentSql.Postgres.Epoch
import FluentSql.Postgres.Executor
import FluentSql.Postgres.Positional
import FluentSql.Postgres.Server
import FluentSql.Postgres.Write
import FluentSql.Row
import FluentSql.Select
import FluentSql.Select.Render
import FluentSql.Sqlite.Command
import FluentSql.Sqlite.Database
import FluentSql.Sqlite.Executor
import FluentSql.Sqlite.Token
import FluentSql.Statement
import FluentSql.Statement.Delete
import FluentSql.Statement.Insert
import FluentSql.Statement.Raw
import FluentSql.Statement.Update
import FluentSql.Style
import FluentSql.Suggestion
import FluentSql.Table
import FluentSql.Template
import FluentSql.Text.Blank
import FluentSql.Text.Case
import FluentSql.Text.CaseTables
import FluentSql.Text.CodeRange
import FluentSql.Text.EditDistance
import FluentSql.Text.Hex
import FluentSql.Text.Printable
import FluentSql.Text.PrintableTables
import FluentSql.Text.Quoted
import FluentSql.Text.Split
import FluentSql.Text.Utf8
import FluentSql.Text.WordChar
import FluentSql.Toml
import FluentSql.Toml.Reader
import FluentSql.Toml.Token
import FluentSql.Uuid
import FluentSql.Value
import FluentSql.Proofs.AcceptedChains
import FluentSql.Proofs.AcceptedConfigs
import FluentSql.Proofs.Assembly
import FluentSql.Proofs.Bindings
import FluentSql.Proofs.BuiltMaps
import FluentSql.Proofs.ByteOffsets
import FluentSql.Proofs.Comparisons
import FluentSql.Proofs.Composition
import FluentSql.Proofs.ConditionLists
import FluentSql.Proofs.ConditionTree
import FluentSql.Proofs.Counting
import FluentSql.Proofs.DayNumbers
import FluentSql.Proofs.DottedNames
import FluentSql.Proofs.DoubleValues
import FluentSql.Proofs.EditScripts
import FluentSql.Proofs.ExpandedTexts
import FluentSql.Proofs.FindByKey
import FluentSql.Proofs.FloatParameters
import FluentSql.Proofs.FloatTexts
import FluentSql.Proofs.Forgiveness
import FluentSql.Proofs.FreshNames
import FluentSql.Proofs.InsertedRows
import FluentSql.Proofs.IntegerParameters
import FluentSql.Proofs.LastRow
import FluentSql.Proofs.Lexemes
import FluentSql.Proofs.Literals
import FluentSql.Proofs.MapHistories
import FluentSql.Proofs.MergedParameters
import FluentSql.Proofs.MisusedChains
import FluentSql.Proofs.Misuses
import FluentSql.Proofs.NameTokens
import FluentSql.Proofs.Naming
import FluentSql.Proofs.NearestDoubles
import FluentSql.Proofs.Nesting
import FluentSql.Proofs.Numbering
import FluentSql.Proofs.OpenedConnections
import FluentSql.Proofs.OperandShapes
import FluentSql.Proofs.Operands
import FluentSql.Proofs.OrderedMaps
import FluentSql.Proofs.Outline
import FluentSql.Proofs.PaddedNumbers
import FluentSql.Proofs.Pages
import FluentSql.Proofs.Parsing
import FluentSql.Proofs.Pipeline
import FluentSql.Proofs.Precedence
import FluentSql.Proofs.Quotations
import FluentSql.Proofs.QuotedClauses
import FluentSql.Proofs.QuotedContents
import FluentSql.Proofs.QuotedNames
import FluentSql.Proofs.RawFree
import FluentSql.Proofs.ReachedLists
import FluentSql.Proofs.ReadLiterals
import FluentSql.Proofs.Recording
import FluentSql.Proofs.References
import FluentSql.Proofs.RejectedCalls
import FluentSql.Proofs.RelatedRows
import FluentSql.Proofs.Renumbering
import FluentSql.Proofs.Retrying
import FluentSql.Proofs.RowTuples
import FluentSql.Proofs.Runs
import FluentSql.Proofs.Saving
import FluentSql.Proofs.Scanning
import FluentSql.Proofs.SerializedRecords
import FluentSql.Proofs.ShortenedTexts
import FluentSql.Proofs.ShortestDecimals
import FluentSql.Proofs.SingleSpaces
import FluentSql.Proofs.SoftDelete
import FluentSql.Proofs.SpelledNumbers
import FluentSql.Proofs.Squeezing
import FluentSql.Proofs.StoredTimes
import FluentSql.Proofs.StoredValues
import FluentSql.Proofs.Suggestions
import FluentSql.Proofs.Tokens
import FluentSql.Proofs.WhereClause
import FluentSql.Proofs.Writes
import FluentSql.Proofs.WrittenParameters
