import SloCompiler.Build
import SloCompiler.BuildError
import SloCompiler.Calendar
import SloCompiler.Check.Dashboard
import SloCompiler.Check.Expression
import SloCompiler.Check.Finding
import SloCompiler.Check.Rules
import SloCompiler.CommandLine.Options
import SloCompiler.CommandLine.Run
import SloCompiler.CommandLine.Setting
import SloCompiler.CommandLine.Word
import SloCompiler.Comparison
import SloCompiler.Config
import SloCompiler.Dashboard.Basic
import SloCompiler.Dashboard.Layout
import SloCompiler.Dashboard.Panel
import SloCompiler.Definition
import SloCompiler.Deployment
import SloCompiler.Duration
import SloCompiler.Event
import SloCompiler.Fault
import SloCompiler.Files.Path
import SloCompiler.Files.Tree
import SloCompiler.Indicator.Basic
import SloCompiler.Indicator.Panels
import SloCompiler.Indicator.Query
import SloCompiler.Indicator.Rules
import SloCompiler.Json.Reader
import SloCompiler.Json.Writer
import SloCompiler.Labels
import SloCompiler.Main
import SloCompiler.Metric.Name
import SloCompiler.Metric.Template
import SloCompiler.Number.Binary64
import SloCompiler.Number.Decimal
import SloCompiler.Number.Plain
import SloCompiler.Number.Reading
import SloCompiler.Number.Whole
import SloCompiler.Ordered
import SloCompiler.Promql.Expr
import SloCompiler.Proofs.Acceptance
import SloCompiler.Proofs.Accounting
import SloCompiler.Proofs.AllOrNothing
import SloCompiler.Proofs.Assembly
import SloCompiler.Proofs.Attribution
import SloCompiler.Proofs.BlockCheck
import SloCompiler.Proofs.CommandRun
import SloCompiler.Proofs.Compilation
import SloCompiler.Proofs.Composition
import SloCompiler.Proofs.Contribution
import SloCompiler.Proofs.DashboardCheck
import SloCompiler.Proofs.DashboardForm
import SloCompiler.Proofs.DashboardLinks
import SloCompiler.Proofs.Delimiters
import SloCompiler.Proofs.DependencyOrder
import SloCompiler.Proofs.Deploying
import SloCompiler.Proofs.DurationFormat
import SloCompiler.Proofs.DurationReading
import SloCompiler.Proofs.EmptyAggregation
import SloCompiler.Proofs.Entries
import SloCompiler.Proofs.ErrorBudget
import SloCompiler.Proofs.ExpressionCheck
import SloCompiler.Proofs.Familiar
import SloCompiler.Proofs.FileNames
import SloCompiler.Proofs.Filing
import SloCompiler.Proofs.Formation
import SloCompiler.Proofs.ForwardReferences
import SloCompiler.Proofs.Furnishing
import SloCompiler.Proofs.GroupNames
import SloCompiler.Proofs.Independence
import SloCompiler.Proofs.InertPatterns
import SloCompiler.Proofs.Layout
import SloCompiler.Proofs.Leftovers
import SloCompiler.Proofs.Lettering
import SloCompiler.Proofs.Measurement
import SloCompiler.Proofs.Merging
import SloCompiler.Proofs.Numeral
import SloCompiler.Proofs.NumeralEnd
import SloCompiler.Proofs.NumeralValue
import SloCompiler.Proofs.Ordered
import SloCompiler.Proofs.Outcome
import SloCompiler.Proofs.OwnRecords
import SloCompiler.Proofs.PanelAgreement
import SloCompiler.Proofs.PercentEncoding
import SloCompiler.Proofs.Places
import SloCompiler.Proofs.Presentation
import SloCompiler.Proofs.QueryMeaning
import SloCompiler.Proofs.QueryReader
import SloCompiler.Proofs.QueryTokens
import SloCompiler.Proofs.QueueAges
import SloCompiler.Proofs.Ranges
import SloCompiler.Proofs.RecordName
import SloCompiler.Proofs.Refreshing
import SloCompiler.Proofs.Registration
import SloCompiler.Proofs.Rejections
import SloCompiler.Proofs.Rendering
import SloCompiler.Proofs.Replacing
import SloCompiler.Proofs.Rounding
import SloCompiler.Proofs.RuleChecks
import SloCompiler.Proofs.SafeNames
import SloCompiler.Proofs.ScalarEquality
import SloCompiler.Proofs.SelectorNotation
import SloCompiler.Proofs.SelectorReader
import SloCompiler.Proofs.SelectorRoundTrip
import SloCompiler.Proofs.SelectorTexts
import SloCompiler.Proofs.SeriesCount
import SloCompiler.Proofs.SilenceLink
import SloCompiler.Proofs.SloChain
import SloCompiler.Proofs.SpecReading
import SloCompiler.Proofs.StableGrouping
import SloCompiler.Proofs.StraightPaths
import SloCompiler.Proofs.Thinning
import SloCompiler.Proofs.UnfinishedChecks
import SloCompiler.Proofs.WholeNames
import SloCompiler.Proofs.Wording
import SloCompiler.Proofs.Words
import SloCompiler.Proofs.WrittenDurations
import SloCompiler.Refusal
import SloCompiler.Registry
import SloCompiler.Rule.Alerting
import SloCompiler.Rule.Recording
import SloCompiler.Schema.Check
import SloCompiler.Schema.Issue
import SloCompiler.Selector.Clause
import SloCompiler.Sli.Spec
import SloCompiler.Text.Base64
import SloCompiler.Text.Blank
import SloCompiler.Text.Case
import SloCompiler.Text.Digit
import SloCompiler.Text.Percent
import SloCompiler.Text.Pieces
import SloCompiler.Text.Printable
import SloCompiler.Text.Quoted
import SloCompiler.Text.Range
import SloCompiler.Text.Regex
import SloCompiler.Text.Word
import SloCompiler.Value.Basic
import SloCompiler.Value.Inspect
import SloCompiler.Yaml.Character
import SloCompiler.Yaml.Content
import SloCompiler.Yaml.Cursor
import SloCompiler.Yaml.Failure
import SloCompiler.Yaml.Graph
import SloCompiler.Yaml.Meaning
import SloCompiler.Yaml.Merge
import SloCompiler.Yaml.PlainForm
import SloCompiler.Yaml.Reader
import SloCompiler.Yaml.Scalar
import SloCompiler.Yaml.Sheet
import SloCompiler.Yaml.Style
import SloCompiler.Yaml.Tag
import SloCompiler.Yaml.Timestamp
import SloCompiler.Yaml.Token
import SloCompiler.Yaml.Token.Block
import SloCompiler.Yaml.Token.Lexer
import SloCompiler.Yaml.Token.Name
import SloCompiler.Yaml.Token.Plain
import SloCompiler.Yaml.Token.Quoted
import SloCompiler.Yaml.Writer
