import RelSchema.Calendar
import RelSchema.Catalog.Basic
import RelSchema.Catalog.Connector
import RelSchema.Catalog.Inspection
import RelSchema.Catalog.Table
import RelSchema.Command.Arguments
import RelSchema.Command.Invocation
import RelSchema.Command.Run
import RelSchema.Config.Basic
import RelSchema.Config.File
import RelSchema.Data.Basic
import RelSchema.Data.Checked
import RelSchema.Data.Comparison
import RelSchema.Data.Decode
import RelSchema.Data.Encode
import RelSchema.Dbml.Column
import RelSchema.Dbml.Line
import RelSchema.Dbml.Name
import RelSchema.Dbml.Reference
import RelSchema.Dbml.Text
import RelSchema.Ddl.Column
import RelSchema.Ddl.Default
import RelSchema.Ddl.Dialect
import RelSchema.Ddl.Guard
import RelSchema.Ddl.Reference
import RelSchema.Ddl.Render
import RelSchema.Ddl.Script
import RelSchema.Dialect
import RelSchema.Display.Emoji
import RelSchema.Display.EmojiTable
import RelSchema.Display.Grid
import RelSchema.Display.Markup
import RelSchema.Display.Style
import RelSchema.Display.WidthTable
import RelSchema.Display.Wrap
import RelSchema.Failure
import RelSchema.Fault
import RelSchema.Files
import RelSchema.Format
import RelSchema.Json.Printer
import RelSchema.Json.Reader
import RelSchema.Keyed
import RelSchema.Live
import RelSchema.Main
import RelSchema.Models.Comment
import RelSchema.Models.Declaration
import RelSchema.Models.Render
import RelSchema.Models.Source
import RelSchema.Models.Tag
import RelSchema.Naming.Case
import RelSchema.Naming.Plural
import RelSchema.Naming.Quote
import RelSchema.Number.Double
import RelSchema.Number.Integer
import RelSchema.Proofs.Catalog.Agreement
import RelSchema.Proofs.Catalog.Availability
import RelSchema.Proofs.Catalog.Connector
import RelSchema.Proofs.Catalog.Inspection
import RelSchema.Proofs.Catalog.Logical
import RelSchema.Proofs.Catalog.Table
import RelSchema.Proofs.Data.Decode
import RelSchema.Proofs.Dbml.Effect
import RelSchema.Proofs.Dbml.Inserted
import RelSchema.Proofs.Dbml.Line
import RelSchema.Proofs.Dbml.Nested
import RelSchema.Proofs.Dbml.Path
import RelSchema.Proofs.Dbml.Reached
import RelSchema.Proofs.Dbml.Reader
import RelSchema.Proofs.Ddl.Agreement
import RelSchema.Proofs.Ddl.Assembled
import RelSchema.Proofs.Ddl.Body
import RelSchema.Proofs.Ddl.Check
import RelSchema.Proofs.Ddl.Clause
import RelSchema.Proofs.Ddl.Coherent
import RelSchema.Proofs.Ddl.Comment
import RelSchema.Proofs.Ddl.Compound
import RelSchema.Proofs.Ddl.Confined
import RelSchema.Proofs.Ddl.Created
import RelSchema.Proofs.Ddl.Default
import RelSchema.Proofs.Ddl.Detected
import RelSchema.Proofs.Ddl.Found
import RelSchema.Proofs.Ddl.Guard
import RelSchema.Proofs.Ddl.Guarded
import RelSchema.Proofs.Ddl.Head
import RelSchema.Proofs.Ddl.Isolated
import RelSchema.Proofs.Ddl.Key
import RelSchema.Proofs.Ddl.KeyConstraint
import RelSchema.Proofs.Ddl.Listed
import RelSchema.Proofs.Ddl.Literal
import RelSchema.Proofs.Ddl.Masked
import RelSchema.Proofs.Ddl.Modified
import RelSchema.Proofs.Ddl.NormalForm
import RelSchema.Proofs.Ddl.Origin
import RelSchema.Proofs.Ddl.Paired
import RelSchema.Proofs.Ddl.PlainType
import RelSchema.Proofs.Ddl.Qualified
import RelSchema.Proofs.Ddl.RawDefault
import RelSchema.Proofs.Ddl.Reference
import RelSchema.Proofs.Ddl.Rendered
import RelSchema.Proofs.Ddl.RoundTrip
import RelSchema.Proofs.Ddl.Settled
import RelSchema.Proofs.Ddl.Statement
import RelSchema.Proofs.Ddl.TableScript
import RelSchema.Proofs.Ddl.Token
import RelSchema.Proofs.Ddl.Type
import RelSchema.Proofs.Failure
import RelSchema.Proofs.Json.RoundTrip
import RelSchema.Proofs.Json.Scalar
import RelSchema.Proofs.Keyed
import RelSchema.Proofs.Live
import RelSchema.Proofs.Models.Calm
import RelSchema.Proofs.Models.Claim
import RelSchema.Proofs.Models.Declared
import RelSchema.Proofs.Models.Field
import RelSchema.Proofs.Models.Header
import RelSchema.Proofs.Models.Layout
import RelSchema.Proofs.Models.Linked
import RelSchema.Proofs.Models.ListKey
import RelSchema.Proofs.Models.Name
import RelSchema.Proofs.Models.Regenerated
import RelSchema.Proofs.Models.Reread
import RelSchema.Proofs.Models.RoundTrip
import RelSchema.Proofs.Models.Size
import RelSchema.Proofs.Models.Source
import RelSchema.Proofs.Models.Tag
import RelSchema.Proofs.Models.Target
import RelSchema.Proofs.Naming.Pascal
import RelSchema.Proofs.Naming.Plural
import RelSchema.Proofs.Naming.Snake
import RelSchema.Proofs.Number.Integer
import RelSchema.Proofs.Schema.Comparison
import RelSchema.Proofs.Schema.Consistent
import RelSchema.Proofs.Schema.Dump
import RelSchema.Proofs.Schema.Marked
import RelSchema.Proofs.Schema.Merge
import RelSchema.Proofs.Schema.Merged
import RelSchema.Proofs.Schema.Produced
import RelSchema.Proofs.Schema.Readable
import RelSchema.Proofs.Schema.Table
import RelSchema.Proofs.Sql.Alike
import RelSchema.Proofs.Sql.Boundary
import RelSchema.Proofs.Sql.Code
import RelSchema.Proofs.Sql.Comment
import RelSchema.Proofs.Sql.Contained
import RelSchema.Proofs.Sql.Division
import RelSchema.Proofs.Sql.Group
import RelSchema.Proofs.Sql.Identifier
import RelSchema.Proofs.Sql.Layout
import RelSchema.Proofs.Sql.Level
import RelSchema.Proofs.Sql.Matching
import RelSchema.Proofs.Sql.Part
import RelSchema.Proofs.Sql.Sequence
import RelSchema.Proofs.Sql.Spare
import RelSchema.Proofs.Sql.Split
import RelSchema.Proofs.Sql.Token
import RelSchema.Proofs.Text.Bytes
import RelSchema.Proofs.Text.Case
import RelSchema.Proofs.Text.Class
import RelSchema.Proofs.Text.Comment
import RelSchema.Proofs.Text.Cut
import RelSchema.Proofs.Text.Trim
import RelSchema.Proofs.Url.Address
import RelSchema.Proofs.Url.Percent
import RelSchema.Schema.Column
import RelSchema.Schema.Comparison
import RelSchema.Schema.Merge
import RelSchema.Schema.Relation
import RelSchema.Schema.Table
import RelSchema.Session
import RelSchema.Sql.Bracket
import RelSchema.Sql.Group
import RelSchema.Sql.Quote
import RelSchema.Sql.Split
import RelSchema.Sql.Token
import RelSchema.Text.Bytes
import RelSchema.Text.Case
import RelSchema.Text.CaseTable
import RelSchema.Text.Class
import RelSchema.Text.CodeRanges
import RelSchema.Text.Comment
import RelSchema.Text.PrintTable
import RelSchema.Text.Quoted
import RelSchema.Text.Trim
import RelSchema.Text.WordTable
import RelSchema.Toml.Document
import RelSchema.Toml.Number
import RelSchema.Toml.Text
import RelSchema.Types.Scalar
import RelSchema.Url.Basic
import RelSchema.Yaml.Cursor
import RelSchema.Yaml.Document
import RelSchema.Yaml.Fault
import RelSchema.Yaml.Meaning
import RelSchema.Yaml.Node
import RelSchema.Yaml.Plain
import RelSchema.Yaml.Printer
import RelSchema.Yaml.Scalar
import RelSchema.Yaml.Timestamp
import RelSchema.Yaml.Token
