import SqlDialects.Behavior
import SqlDialects.Builtin
import SqlDialects.Builtin.Analytic
import SqlDialects.Builtin.Commercial
import SqlDialects.Builtin.Open
import SqlDialects.Builtin.Standard
import SqlDialects.Calendar
import SqlDialects.Capability
import SqlDialects.Column
import SqlDialects.CommandLine.Answer
import SqlDialects.CommandLine.Files
import SqlDialects.CommandLine.Flag
import SqlDialects.CommandLine.Report
import SqlDialects.CommandLine.Request
import SqlDialects.Composition
import SqlDialects.Config
import SqlDialects.Config.Json
import SqlDialects.Config.Resolution
import SqlDialects.Config.Yaml
import SqlDialects.Definition
import SqlDialects.Dialect
import SqlDialects.Dialect.Summary
import SqlDialects.Dictionary
import SqlDialects.Editions
import SqlDialects.Error
import SqlDialects.Identity
import SqlDialects.Identity.Json
import SqlDialects.Impersonation
import SqlDialects.InlineSql
import SqlDialects.InlineTable
import SqlDialects.Json
import SqlDialects.Json.Text
import SqlDialects.Literal
import SqlDialects.LogicalType
import SqlDialects.Main
import SqlDialects.Numeral.Decimal
import SqlDialects.Numeral.Integer
import SqlDialects.Overlay
import SqlDialects.Probe
import SqlDialects.Proofs.Ancestors
import SqlDialects.Proofs.BuiltinRegistry
import SqlDialects.Proofs.BuiltinRules
import SqlDialects.Proofs.ByteOrder
import SqlDialects.Proofs.CalendarForms
import SqlDialects.Proofs.CastTargets
import SqlDialects.Proofs.CharacterTargets
import SqlDialects.Proofs.Climb
import SqlDialects.Proofs.CollidingNames
import SqlDialects.Proofs.ColumnClasses
import SqlDialects.Proofs.ColumnSizes
import SqlDialects.Proofs.CommandOutcomes
import SqlDialects.Proofs.CompletedSnapshot
import SqlDialects.Proofs.ConfigOutcomes
import SqlDialects.Proofs.ConservativeExtension
import SqlDialects.Proofs.Counterparts
import SqlDialects.Proofs.DecimalSpelling
import SqlDialects.Proofs.DecimalValue
import SqlDialects.Proofs.DeclarationOrder
import SqlDialects.Proofs.DigitCounts
import SqlDialects.Proofs.EditionChoice
import SqlDialects.Proofs.EmptyTables
import SqlDialects.Proofs.GateOrder
import SqlDialects.Proofs.GreatestKeys
import SqlDialects.Proofs.InlineReadBack
import SqlDialects.Proofs.InlineReader
import SqlDialects.Proofs.InlineReading
import SqlDialects.Proofs.IntegerSpelling
import SqlDialects.Proofs.JsonNumbers
import SqlDialects.Proofs.JsonReader
import SqlDialects.Proofs.JsonRecords
import SqlDialects.Proofs.JsonText
import SqlDialects.Proofs.JsonTokens
import SqlDialects.Proofs.LineOutcomes
import SqlDialects.Proofs.Lineage
import SqlDialects.Proofs.LiteralCharacters
import SqlDialects.Proofs.LiteralReading
import SqlDialects.Proofs.LowerCase
import SqlDialects.Proofs.MetadataSource
import SqlDialects.Proofs.NearestOverlay
import SqlDialects.Proofs.NullOrder
import SqlDialects.Proofs.NumeralGrammar
import SqlDialects.Proofs.NumericLiterals
import SqlDialects.Proofs.NumericNarrowing
import SqlDialects.Proofs.NumericTargets
import SqlDialects.Proofs.NumericWidening
import SqlDialects.Proofs.Outcome
import SqlDialects.Proofs.PlainTexts
import SqlDialects.Proofs.ProbeDiscipline
import SqlDialects.Proofs.ProductNames
import SqlDialects.Proofs.QueryNames
import SqlDialects.Proofs.QuietTexts
import SqlDialects.Proofs.Quotation
import SqlDialects.Proofs.RecordedAnswers
import SqlDialects.Proofs.RecordedVariables
import SqlDialects.Proofs.RegistryBuild
import SqlDialects.Proofs.RegistryContents
import SqlDialects.Proofs.RegistryValidation
import SqlDialects.Proofs.ResolutionOutcomes
import SqlDialects.Proofs.ResolutionPaths
import SqlDialects.Proofs.ReturnedDialects
import SqlDialects.Proofs.RisingVersions
import SqlDialects.Proofs.Spelling
import SqlDialects.Proofs.TableAcceptance
import SqlDialects.Proofs.TableParts
import SqlDialects.Proofs.TemporalLiterals
import SqlDialects.Proofs.Tokens
import SqlDialects.Proofs.Trees
import SqlDialects.Proofs.VariableQuestion
import SqlDialects.Proofs.VersionGates
import SqlDialects.Proofs.VersionOrder
import SqlDialects.Proofs.VersionReading
import SqlDialects.Proofs.Vocabulary
import SqlDialects.Query
import SqlDialects.Quoting
import SqlDialects.Recognizer
import SqlDialects.Registry
import SqlDialects.Resolution
import SqlDialects.Text.Blank
import SqlDialects.Text.CodeRange
import SqlDialects.Text.Display
import SqlDialects.Text.LetterCase
import SqlDialects.Text.LetterCase.Table
import SqlDialects.Text.Printable
import SqlDialects.Text.Search
import SqlDialects.TypeCode
import SqlDialects.Version
import SqlDialects.Words
import SqlDialects.Yaml.Character
import SqlDialects.Yaml.Decode
import SqlDialects.Yaml.Node
import SqlDialects.Yaml.Node.Reader
import SqlDialects.Yaml.Scalar
import SqlDialects.Yaml.Tag
import SqlDialects.Yaml.Token
import SqlDialects.Yaml.Token.Lexer
