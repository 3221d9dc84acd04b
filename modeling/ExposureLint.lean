import ExposureLint.Cli.Command
import ExposureLint.Cli.CrashLog
import ExposureLint.Cli.Option
import ExposureLint.Cli.Run
import ExposureLint.Cli.Snapshot
import ExposureLint.Cli.Usage
import ExposureLint.Console.Log
import ExposureLint.Console.Presentation
import ExposureLint.Console.Report
import ExposureLint.Console.Session
import ExposureLint.Document.Base64
import ExposureLint.Document.Calendar
import ExposureLint.Document.Display
import ExposureLint.Document.Members
import ExposureLint.Document.Scalar
import ExposureLint.Document.Value
import ExposureLint.Expression.Cause
import ExposureLint.Expression.Escape
import ExposureLint.Expression.Field
import ExposureLint.Expression.Grammar
import ExposureLint.Expression.Literal
import ExposureLint.Expression.Number
import ExposureLint.Expression.Quoted
import ExposureLint.Expression.Reading
import ExposureLint.Expression.Token
import ExposureLint.Expression.Tree
import ExposureLint.Finding
import ExposureLint.Host
import ExposureLint.Json.Error
import ExposureLint.Json.Printer
import ExposureLint.Json.Reader
import ExposureLint.Number.Binary64
import ExposureLint.Number.Natural
import ExposureLint.Number.Numeral
import ExposureLint.Number.Shortest
import ExposureLint.Operation
import ExposureLint.Project.Disk
import ExposureLint.Project.Failure
import ExposureLint.Project.Path
import ExposureLint.Project.Pipeline
import ExposureLint.Record.Fault
import ExposureLint.Record.Field
import ExposureLint.Report
import ExposureLint.Settings
import ExposureLint.Spec.Check
import ExposureLint.Spec.Operations
import ExposureLint.Terminal.Action
import ExposureLint.Terminal.Color
import ExposureLint.Terminal.Grid
import ExposureLint.Terminal.Markup
import ExposureLint.Terminal.Panel
import ExposureLint.Terminal.Run
import ExposureLint.Terminal.Style
import ExposureLint.Terminal.Styled
import ExposureLint.Terminal.Table
import ExposureLint.Terminal.Theme
import ExposureLint.Text.Basic
import ExposureLint.Text.CharacterName
import ExposureLint.Text.Class
import ExposureLint.Text.Emoji
import ExposureLint.Text.Grapheme
import ExposureLint.Text.Lower
import ExposureLint.Text.Pattern
import ExposureLint.Text.Printable
import ExposureLint.Text.Quoted
import ExposureLint.Text.Sorted
import ExposureLint.Text.Upper
import ExposureLint.Text.Utf8
import ExposureLint.Text.Width
import ExposureLint.Text.Word
import ExposureLint.Yaml.Build
import ExposureLint.Yaml.Cursor
import ExposureLint.Yaml.Error
import ExposureLint.Yaml.Merge
import ExposureLint.Yaml.Node
import ExposureLint.Yaml.Scalar
import ExposureLint.Yaml.Tag
import ExposureLint.Yaml.Token
import ExposureLint.Yaml.Token.Block
import ExposureLint.Yaml.Token.Name
import ExposureLint.Yaml.Token.Plain
import ExposureLint.Yaml.Token.Quoted
import ExposureLint.Yaml.Token.Stream
import ExposureLint.Main
import ExposureLint.Proofs.Outcome
import ExposureLint.Proofs.Sorting
import ExposureLint.Proofs.MethodKey
import ExposureLint.Proofs.Declaration
import ExposureLint.Proofs.Normalization
import ExposureLint.Proofs.Verdict
import ExposureLint.Proofs.Shown
import ExposureLint.Proofs.Listable
import ExposureLint.Proofs.JsonNumber
import ExposureLint.Proofs.JsonReader
import ExposureLint.Proofs.ScanFaults
import ExposureLint.Proofs.YamlReader
import ExposureLint.Proofs.ParseFailure
import ExposureLint.Proofs.Reportable
import ExposureLint.Proofs.SettingsFailure
import ExposureLint.Proofs.Session
import ExposureLint.Proofs.CommandRun
import ExposureLint.Proofs.ProjectOutcome
import ExposureLint.Proofs.ExitCode
import ExposureLint.Proofs.Entries
import ExposureLint.Proofs.Tellable
import ExposureLint.Proofs.Drawing
import ExposureLint.Proofs.CrashLog
import ExposureLint.Proofs.Rendering
import ExposureLint.Proofs.RemarkLines
import ExposureLint.Proofs.Channels
import ExposureLint.Proofs.DistinctKeys
import ExposureLint.Proofs.RecordKeys
import ExposureLint.Proofs.SortedRecords
import ExposureLint.Proofs.Authentication
import ExposureLint.Proofs.Unread
import ExposureLint.Proofs.DefaultSecurity
import ExposureLint.Proofs.JoinedPaths
import ExposureLint.Proofs.Amendment
import ExposureLint.Proofs.Layout
import ExposureLint.Proofs.JsonScalars
import ExposureLint.Proofs.JsonRoundTrip
import ExposureLint.Proofs.RecordTelling
import ExposureLint.Proofs.Listing
import ExposureLint.Proofs.Remedy
import ExposureLint.Proofs.SideBySide
import ExposureLint.Proofs.CheckedRoutes
import ExposureLint.Proofs.SameData
import ExposureLint.Proofs.RemarkFlags
import ExposureLint.Proofs.SettingsRecord
import ExposureLint.Proofs.Precedence
import ExposureLint.Proofs.Ending
import ExposureLint.Proofs.FindingSource
import ExposureLint.Proofs.Toleration
import ExposureLint.Proofs.Consistency
import ExposureLint.Proofs.EffectiveFormat
import ExposureLint.Proofs.FindingOrder
import ExposureLint.Proofs.MethodClass
import ExposureLint.Proofs.PlainTables
import ExposureLint.Proofs.SessionHistory
import ExposureLint.Proofs.Discovery
import ExposureLint.Proofs.Requirement
import ExposureLint.Proofs.ReadOnly
import ExposureLint.Proofs.Expansion
import ExposureLint.Proofs.ShortNames
import ExposureLint.Proofs.Escaping
import ExposureLint.Proofs.ColourModes
import ExposureLint.Proofs.LogHandlers
import ExposureLint.Proofs.AcceptedSettings
import ExposureLint.Proofs.RouteRows
