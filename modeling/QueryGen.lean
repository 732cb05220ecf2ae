import QueryGen.Catalog.Basic
import QueryGen.Catalog.Live
import QueryGen.Catalog.Memory
import QueryGen.Catalog.SchemaFile
import QueryGen.Clause.Basic
import QueryGen.Clause.Build
import QueryGen.Command.Basic
import QueryGen.Command.LogFilter
import QueryGen.Command.Run
import QueryGen.Compile
import QueryGen.Config.Basic
import QueryGen.Config.Check
import QueryGen.Config.Reader
import QueryGen.Data.Json
import QueryGen.Data.Json.Printer
import QueryGen.Data.Json.Reader
import QueryGen.Data.Tree
import QueryGen.Data.Yaml
import QueryGen.Data.Yaml.BlockScalar
import QueryGen.Data.Yaml.Layout
import QueryGen.Data.Yaml.Lexer
import QueryGen.Data.Yaml.Node
import QueryGen.Data.Yaml.Place
import QueryGen.Data.Yaml.Reader
import QueryGen.Data.Yaml.Scalar
import QueryGen.Data.Yaml.Token
import QueryGen.Distinct
import QueryGen.Form.Clause
import QueryGen.Form.Config
import QueryGen.Form.Declaration
import QueryGen.Form.Method
import QueryGen.Form.Model
import QueryGen.Form.Plan
import QueryGen.Form.Schema
import QueryGen.Form.Section
import QueryGen.Form.Type
import QueryGen.Go.Declaration
import QueryGen.Go.Identifier
import QueryGen.Go.Literal
import QueryGen.Go.Param
import QueryGen.Go.Reserved
import QueryGen.Go.Source.Comment
import QueryGen.Go.Source.Doc
import QueryGen.Go.Source.Expression
import QueryGen.Go.Source.File
import QueryGen.Go.Source.Lexeme
import QueryGen.Go.Source.Read
import QueryGen.Go.Source.Spec
import QueryGen.Go.Source.Statement
import QueryGen.Go.Source.Token
import QueryGen.Go.Source.Type
import QueryGen.Go.Type
import QueryGen.Main
import QueryGen.Method.Basic
import QueryGen.Method.Doc
import QueryGen.Method.Error
import QueryGen.Model.Basic
import QueryGen.Naming.Basic
import QueryGen.Naming.Words
import QueryGen.Output.HelperFile
import QueryGen.Output.Layout
import QueryGen.Output.ModelFile
import QueryGen.Output.QueryFile
import QueryGen.Path
import QueryGen.Plan.Basic
import QueryGen.Plan.Failure
import QueryGen.Plan.Files
import QueryGen.Results
import QueryGen.Schema.DataType
import QueryGen.Schema.Dialect
import QueryGen.Schema.Table
import QueryGen.Statement.Basic
import QueryGen.Statement.Check
import QueryGen.Statement.Render
import QueryGen.Template.Buffer
import QueryGen.Template.Cursor
import QueryGen.Template.Directive
import QueryGen.Template.Error
import QueryGen.Template.Piece
import QueryGen.Template.Scope
import QueryGen.Template.Section
import QueryGen.Template.Tokenize
import QueryGen.Text.Alphabetic
import QueryGen.Text.Basic
import QueryGen.Text.Case
import QueryGen.Text.CaseMap
import QueryGen.Text.Class
import QueryGen.Text.CodeRun
import QueryGen.Text.LetterCase
import QueryGen.Text.NameCharacters
import QueryGen.WorkDir
import QueryGen.Proofs.Clause.Flatten
import QueryGen.Proofs.Clause.Grammar
import QueryGen.Proofs.Clause.Number
import QueryGen.Proofs.Template.Reading
import QueryGen.Proofs.Template.Scoping
import QueryGen.Proofs.Statement.Groups
import QueryGen.Proofs.Execution.Course
import QueryGen.Proofs.Execution.Names
import QueryGen.Proofs.Execution.Variables
import QueryGen.Proofs.Execution.Follow
import QueryGen.Proofs.Execution.Sites
import QueryGen.Proofs.Execution.Distinct
import QueryGen.Proofs.Execution.Clean
import QueryGen.Proofs.Execution.Reach
import QueryGen.Proofs.Execution.Faithful
import QueryGen.Proofs.Template.Words
import QueryGen.Proofs.Template.Spelling
import QueryGen.Proofs.Template.CodeWords
import QueryGen.Proofs.Template.Fits
import QueryGen.Proofs.Template.Printing
import QueryGen.Proofs.Template.Positions
import QueryGen.Proofs.Template.Cuts
import QueryGen.Proofs.Statement.Scopes
import QueryGen.Proofs.Statement.Closed
import QueryGen.Proofs.Statement.Hygiene
import QueryGen.Proofs.Go.Rests
import QueryGen.Proofs.Go.Passing
import QueryGen.Proofs.Go.Fields
import QueryGen.Proofs.Model.TagPairs
import QueryGen.Proofs.Model.ColumnSettings
import QueryGen.Proofs.Model.StructTags
import QueryGen.Proofs.Clause.Prefixes
import QueryGen.Proofs.Clause.Annotations
import QueryGen.Proofs.Template.Delimiting
import QueryGen.Proofs.Statement.Neighbours
import QueryGen.Proofs.Execution.ReadBack
import QueryGen.Proofs.Execution.Joining
import QueryGen.Proofs.Execution.Positional
import QueryGen.Proofs.Execution.QuestionMarks
import QueryGen.Proofs.Form.Records
import QueryGen.Proofs.Form.Types
import QueryGen.Proofs.Form.Clauses
import QueryGen.Proofs.Plan.Steps
import QueryGen.Proofs.Plan.Account
import QueryGen.Proofs.Plan.Places
import QueryGen.Proofs.Plan.Apart
import QueryGen.Proofs.Output.ImportBlock
import QueryGen.Proofs.Plan.Imports
import QueryGen.Proofs.Template.DirectiveEnd
import QueryGen.Proofs.Text.Lines
import QueryGen.Proofs.Template.Selectors
import QueryGen.Proofs.Statement.Blocks
import QueryGen.Proofs.Statement.Shapes
import QueryGen.Proofs.Go.Unquote
import QueryGen.Proofs.Statement.Decoded
import QueryGen.Proofs.Template.LiteralText
import QueryGen.Proofs.Template.PlainText
import QueryGen.Proofs.Template.TableNames
import QueryGen.Proofs.Statement.Texts
import QueryGen.Proofs.Method.Names
import QueryGen.Proofs.Statement.Captures
import QueryGen.Proofs.Method.Placeholders
import QueryGen.Proofs.Method.Wrappers
import QueryGen.Proofs.Method.Results
import QueryGen.Proofs.Statement.Assignments
import QueryGen.Proofs.Output.Serving
import QueryGen.Proofs.Plan.KnownStructs
import QueryGen.Proofs.Plan.FieldPaths
import QueryGen.Proofs.Naming.GoNames
import QueryGen.Proofs.Model.Members
import QueryGen.Proofs.Model.DeclaredFields
import QueryGen.Proofs.Naming.Qualified
import QueryGen.Proofs.Plan.ModelNames
import QueryGen.Proofs.Method.Paragraphs
import QueryGen.Proofs.Method.DocTexts
import QueryGen.Proofs.Go.Comments
import QueryGen.Proofs.Catalog.Lookups
import QueryGen.Proofs.Schema.EnumValues
import QueryGen.Proofs.Go.DocBlocks
import QueryGen.Proofs.Go.Lexing
import QueryGen.Proofs.Go.TypeTexts
import QueryGen.Proofs.Go.Signatures
import QueryGen.Proofs.Go.PlainFiles
import QueryGen.Proofs.Method.FreshNames
import QueryGen.Proofs.Go.Quoting
import QueryGen.Proofs.Execution.PrintedKeys
import QueryGen.Proofs.Output.FieldLines
