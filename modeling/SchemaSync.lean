import SchemaSync.Catalog.Default
import SchemaSync.Catalog.Introspection
import SchemaSync.Catalog.MySql
import SchemaSync.Catalog.NativeType
import SchemaSync.Catalog.Postgres
import SchemaSync.Catalog.Query
import SchemaSync.Change.Basic
import SchemaSync.Change.Diff
import SchemaSync.Ddl.CreateTable
import SchemaSync.Ddl.ModifyColumn
import SchemaSync.Ddl.Statement
import SchemaSync.Ddl.TypeName
import SchemaSync.Dialect
import SchemaSync.Directory.Entry
import SchemaSync.Directory.FileName
import SchemaSync.Directory.Listing
import SchemaSync.Entity.Clause
import SchemaSync.Entity.ColumnSpec
import SchemaSync.Entity.Declaration
import SchemaSync.Entity.Fault
import SchemaSync.Entity.FieldSpec
import SchemaSync.Entity.Inference
import SchemaSync.Entity.JoinSpec
import SchemaSync.Entity.Reader
import SchemaSync.Entity.Relation
import SchemaSync.Entity.TableName
import SchemaSync.Entity.Target
import SchemaSync.Error
import SchemaSync.Migration
import SchemaSync.Proofs.Catalog.DeclaredKeys
import SchemaSync.Proofs.Catalog.Default
import SchemaSync.Proofs.Catalog.EnumLabels
import SchemaSync.Proofs.Catalog.Introspection
import SchemaSync.Proofs.Catalog.MySqlType
import SchemaSync.Proofs.Catalog.NativeType
import SchemaSync.Proofs.Catalog.PostgresType
import SchemaSync.Proofs.Catalog.Spelling
import SchemaSync.Proofs.Change.Agreement
import SchemaSync.Proofs.Change.Alteration
import SchemaSync.Proofs.Change.Closure
import SchemaSync.Proofs.Change.CompositeKey
import SchemaSync.Proofs.Change.ConstraintNames
import SchemaSync.Proofs.Change.Convergence
import SchemaSync.Proofs.Change.Declaration
import SchemaSync.Proofs.Change.Execution
import SchemaSync.Proofs.Change.Midway
import SchemaSync.Proofs.Change.Mirror
import SchemaSync.Proofs.Change.Subjects
import SchemaSync.Proofs.Ddl.ColumnStatement
import SchemaSync.Proofs.Ddl.CreateTable
import SchemaSync.Proofs.Ddl.Definition
import SchemaSync.Proofs.Ddl.Keyword
import SchemaSync.Proofs.Ddl.LiteralText
import SchemaSync.Proofs.Ddl.Masking
import SchemaSync.Proofs.Ddl.ModifyColumn
import SchemaSync.Proofs.Ddl.Outline
import SchemaSync.Proofs.Ddl.Phrase
import SchemaSync.Proofs.Directory.FileName
import SchemaSync.Proofs.Directory.Scan
import SchemaSync.Proofs.Entity.Discovery
import SchemaSync.Proofs.Entity.Failure
import SchemaSync.Proofs.Entity.Items
import SchemaSync.Proofs.Entity.Marker
import SchemaSync.Proofs.Entity.Mode
import SchemaSync.Proofs.Entity.Outcome
import SchemaSync.Proofs.Entity.Readers
import SchemaSync.Proofs.Entity.Rearrangement
import SchemaSync.Proofs.Entity.Reference
import SchemaSync.Proofs.Entity.Repetition
import SchemaSync.Proofs.Entity.Resolution
import SchemaSync.Proofs.Entity.Slots
import SchemaSync.Proofs.Entity.TableRules
import SchemaSync.Proofs.Entity.UnmarkedTarget
import SchemaSync.Proofs.Except
import SchemaSync.Proofs.Schema.Assembly
import SchemaSync.Proofs.Schema.Checked
import SchemaSync.Proofs.Schema.KeyColumns
import SchemaSync.Proofs.Script.Comment
import SchemaSync.Proofs.Script.Creation
import SchemaSync.Proofs.Script.Placement
import SchemaSync.Proofs.Source.Position
import SchemaSync.Proofs.Text.Blank
import SchemaSync.Proofs.Text.Boundary
import SchemaSync.Proofs.Text.ItemList
import SchemaSync.Proofs.Text.Lexeme
import SchemaSync.Proofs.Text.MySqlLiteral
import SchemaSync.Proofs.Text.Quoting
import SchemaSync.Proofs.Text.Scanning
import SchemaSync.Proofs.Text.Word
import SchemaSync.Schema.Basic
import SchemaSync.Schema.Column
import SchemaSync.Schema.ColumnType
import SchemaSync.Schema.ForeignKey
import SchemaSync.Schema.Table
import SchemaSync.Schema.Violation
import SchemaSync.Script
import SchemaSync.Settings.Basic
import SchemaSync.Settings.EnvFile
import SchemaSync.Source.Attribute
import SchemaSync.Source.File
import SchemaSync.Source.Grammar.Basic
import SchemaSync.Source.Grammar.Expression
import SchemaSync.Source.Grammar.File
import SchemaSync.Source.Grammar.Item
import SchemaSync.Source.Grammar.Parameter
import SchemaSync.Source.Grammar.Path
import SchemaSync.Source.Grammar.Pattern
import SchemaSync.Source.Grammar.Statement
import SchemaSync.Source.Grammar.Type
import SchemaSync.Source.Identifier
import SchemaSync.Source.Item
import SchemaSync.Source.Lexer
import SchemaSync.Source.Numeral
import SchemaSync.Source.Quotation
import SchemaSync.Source.Reading
import SchemaSync.Source.Token
import SchemaSync.Source.TypeExpr
import SchemaSync.Text.Blank
import SchemaSync.Text.CaseMap
import SchemaSync.Text.CaseTable
import SchemaSync.Text.IdentTable
import SchemaSync.Text.ItemList
import SchemaSync.Text.Names
import SchemaSync.Text.Number
import SchemaSync.Text.Quoted
import SchemaSync.Text.Search
