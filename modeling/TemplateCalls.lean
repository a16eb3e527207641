import TemplateCalls.Argument
import TemplateCalls.Argument.Entry
import TemplateCalls.CommandLine.Compilation
import TemplateCalls.CommandLine.Invocation
import TemplateCalls.CommandLine.Listing
import TemplateCalls.CommandLine.Options
import TemplateCalls.Decimal
import TemplateCalls.Expression
import TemplateCalls.Fault
import TemplateCalls.Files
import TemplateCalls.Main
import TemplateCalls.Plugin
import TemplateCalls.Plugin.Registry
import TemplateCalls.RenderModule
import TemplateCalls.Report
import TemplateCalls.Settings
import TemplateCalls.Settings.Loading
import TemplateCalls.Text.CharacterSets
import TemplateCalls.Text.CodePoint
import TemplateCalls.Text.Identifier
import TemplateCalls.Text.LetterCase
import TemplateCalls.Text.Pattern
import TemplateCalls.Text.Printable
import TemplateCalls.Text.Quoted
import TemplateCalls.Yaml.Binary
import TemplateCalls.Yaml.Composition
import TemplateCalls.Yaml.Cursor
import TemplateCalls.Yaml.Document
import TemplateCalls.Yaml.Graph
import TemplateCalls.Yaml.Moment
import TemplateCalls.Yaml.Number
import TemplateCalls.Yaml.Reader
import TemplateCalls.Yaml.Scalar
import TemplateCalls.Yaml.Tag
import TemplateCalls.Yaml.Token
import TemplateCalls.Yaml.TokenStream
import TemplateCalls.Proofs.BindingAccount
import TemplateCalls.Proofs.BindingFaults
import TemplateCalls.Proofs.BindingPasses
import TemplateCalls.Proofs.Blanks
import TemplateCalls.Proofs.BoundExpressions
import TemplateCalls.Proofs.CallFaults
import TemplateCalls.Proofs.CanonicalIndices
import TemplateCalls.Proofs.CapturedNames
import TemplateCalls.Proofs.CollectionReading
import TemplateCalls.Proofs.CommandLineArguments
import TemplateCalls.Proofs.CompilationOutcome
import TemplateCalls.Proofs.ComposedExpressions
import TemplateCalls.Proofs.Decimal
import TemplateCalls.Proofs.DecodableRuns
import TemplateCalls.Proofs.DistinctKeys
import TemplateCalls.Proofs.DraftValues
import TemplateCalls.Proofs.Entries
import TemplateCalls.Proofs.ExplicitIndices
import TemplateCalls.Proofs.FunctionHeader
import TemplateCalls.Proofs.HollowCalls
import TemplateCalls.Proofs.IndexAssignment
import TemplateCalls.Proofs.Keys
import TemplateCalls.Proofs.Lexemes
import TemplateCalls.Proofs.LiteralFaults
import TemplateCalls.Proofs.LoadingFaults
import TemplateCalls.Proofs.ModuleOutput
import TemplateCalls.Proofs.NameUses
import TemplateCalls.Proofs.NamedForm
import TemplateCalls.Proofs.NearestFile
import TemplateCalls.Proofs.Outcome
import TemplateCalls.Proofs.Patterns
import TemplateCalls.Proofs.ProgramOptions
import TemplateCalls.Proofs.QuotedForms
import TemplateCalls.Proofs.QuotedReading
import TemplateCalls.Proofs.QuotedScan
import TemplateCalls.Proofs.RearrangedCalls
import TemplateCalls.Proofs.RunAccount
import TemplateCalls.Proofs.Scanner
import TemplateCalls.Proofs.SelfContainedCalls
import TemplateCalls.Proofs.SelfContainedCode
import TemplateCalls.Proofs.Separation
import TemplateCalls.Proofs.SettingsChanges
import TemplateCalls.Proofs.SettingsPrecedence
import TemplateCalls.Proofs.SourceReading
import TemplateCalls.Proofs.StepRuns
import TemplateCalls.Proofs.Styles
import TemplateCalls.Proofs.TextRuns
import TemplateCalls.Proofs.Verbosity
