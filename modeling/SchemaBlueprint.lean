import SchemaBlueprint.Text.Case
import SchemaBlueprint.Text.Ascii
import SchemaBlueprint.Text.Blank
import SchemaBlueprint.Text.Segment
import SchemaBlueprint.Text.Quoted
import SchemaBlueprint.Decimal.Layout
import SchemaBlueprint.Decimal.Read
import SchemaBlueprint.Error
import SchemaBlueprint.Identifier
import SchemaBlueprint.Literal
import SchemaBlueprint.Blueprint.Basic
import SchemaBlueprint.Blueprint.Build
import SchemaBlueprint.Blueprint.Implied
import SchemaBlueprint.Column.Build
import SchemaBlueprint.StorageType
import SchemaBlueprint.Grammar.Basic
import SchemaBlueprint.Grammar.Definition
import SchemaBlueprint.Grammar.Statement
import SchemaBlueprint.Document.Blueprint
import SchemaBlueprint.Document.Encode
import SchemaBlueprint.Json.Printer
import SchemaBlueprint.Json.Number
import SchemaBlueprint.Builder
import SchemaBlueprint.Catalog.Listing
import SchemaBlueprint.Catalog.Reader
import SchemaBlueprint.Connection.Scripted
import SchemaBlueprint.Document.Settings
import SchemaBlueprint.Config.Environment
import SchemaBlueprint.Yaml.Cursor
import SchemaBlueprint.Yaml.Scalar
import SchemaBlueprint.Yaml.Node
import SchemaBlueprint.Config.File
import SchemaBlueprint.CommandLine.Arguments
import SchemaBlueprint.CommandLine.Run
import SchemaBlueprint.Main
import SchemaBlueprint.CommandLine.Folder
import SchemaBlueprint.Proofs.Repetition
import SchemaBlueprint.Proofs.Postcondition
import SchemaBlueprint.Proofs.AlteredTable
import SchemaBlueprint.Proofs.EarlyResolution
import SchemaBlueprint.Proofs.Emission
import SchemaBlueprint.Proofs.KeyDeclaration
import SchemaBlueprint.Proofs.Failure
import SchemaBlueprint.Proofs.CreatedTable
import SchemaBlueprint.Proofs.QuoteFree
import SchemaBlueprint.Proofs.Literals
import SchemaBlueprint.Proofs.LiteralData
import SchemaBlueprint.Proofs.Resolved
import SchemaBlueprint.Proofs.Rearrangement
import SchemaBlueprint.Proofs.Extension
import SchemaBlueprint.Proofs.Context
import SchemaBlueprint.Proofs.StrictMode
import SchemaBlueprint.Proofs.Spelling
import SchemaBlueprint.Proofs.Respelling
import SchemaBlueprint.Proofs.AlikeStatements
import SchemaBlueprint.Proofs.TableConstraints
import SchemaBlueprint.Proofs.StatementParts
import SchemaBlueprint.Proofs.Punctuation
import SchemaBlueprint.Proofs.ReservedSegment
import SchemaBlueprint.Proofs.ListShape
import SchemaBlueprint.Proofs.WrittenNames
import SchemaBlueprint.Proofs.ReservedNames
import SchemaBlueprint.Proofs.Execution
import SchemaBlueprint.Proofs.ExecutedNames
import SchemaBlueprint.Proofs.WrittenBlueprint
import SchemaBlueprint.Proofs.Rejection
import SchemaBlueprint.Proofs.CatalogListing
import SchemaBlueprint.Proofs.StoredDefault
import SchemaBlueprint.Proofs.AdditionOrder
import SchemaBlueprint.Proofs.PlainNames
import SchemaBlueprint.Proofs.NameWords
import SchemaBlueprint.Proofs.ReplacedCheck
import SchemaBlueprint.Proofs.GuardedDrop
import SchemaBlueprint.Proofs.RegisteredType
import SchemaBlueprint.Proofs.ReportedColumn
import SchemaBlueprint.Proofs.LongestEntry
import SchemaBlueprint.Proofs.StorageFamily
import SchemaBlueprint.Proofs.ConnectionAttributes
import SchemaBlueprint.Proofs.DescribedConfig
import SchemaBlueprint.Proofs.BaseName
import SchemaBlueprint.Proofs.LastValue
