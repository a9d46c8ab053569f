import FilterWire.Calendar.Basic
import FilterWire.Calendar.Format
import FilterWire.Calendar.Moment
import FilterWire.Call
import FilterWire.CodecError
import FilterWire.Command.Arguments
import FilterWire.Command.Report
import FilterWire.Command.Run
import FilterWire.Comparator.Definition
import FilterWire.Comparator.Registry
import FilterWire.Comparator.Standard
import FilterWire.Console.Line
import FilterWire.Console.Message
import FilterWire.Console.Table
import FilterWire.Decimal.Format
import FilterWire.Decimal.Nearest
import FilterWire.Decimal.Shortest
import FilterWire.Dictionary
import FilterWire.Draft.Condition
import FilterWire.Draft.Expression
import FilterWire.Draft.FilterSet
import FilterWire.Failure
import FilterWire.Files.Error
import FilterWire.Files.LogFile
import FilterWire.Files.Path
import FilterWire.Files.Pattern
import FilterWire.Files.Tree
import FilterWire.FilterSet.Basic
import FilterWire.FilterSet.Codec
import FilterWire.FilterSet.Condition
import FilterWire.FilterSet.Validation
import FilterWire.Group
import FilterWire.Guard
import FilterWire.Json.Printer
import FilterWire.Json.Reader
import FilterWire.Log
import FilterWire.Main
import FilterWire.Session
import FilterWire.Settings.Basic
import FilterWire.Settings.Document
import FilterWire.Settings.Files
import FilterWire.Text.Basic
import FilterWire.Text.Blank
import FilterWire.Text.Case
import FilterWire.Text.CaseTable
import FilterWire.Text.Cluster
import FilterWire.Text.DecimalDigit
import FilterWire.Text.Layout
import FilterWire.Text.Printable
import FilterWire.Text.Quoted
import FilterWire.Text.Surrogate
import FilterWire.Text.Utf8
import FilterWire.Text.Width
import FilterWire.Toml.Reader
import FilterWire.Toml.Scalar
import FilterWire.Toml.Table
import FilterWire.Toml.Text
import FilterWire.Value.Basic
import FilterWire.Value.EntryKey
import FilterWire.Value.Stamp
import FilterWire.Proofs.Group
import FilterWire.Proofs.Logged
import FilterWire.Proofs.Text.Trim
import FilterWire.Proofs.Call
import FilterWire.Proofs.FilterSet.Combiner
import FilterWire.Proofs.Guard
import FilterWire.Proofs.Guard.Stripping
import FilterWire.Proofs.FilterSet.Segments
import FilterWire.Proofs.Comparator.Brackets
import FilterWire.Proofs.Comparator.Naming
import FilterWire.Proofs.Condition.Transmission
import FilterWire.Proofs.FilterSet.WrittenCall
import FilterWire.Proofs.FilterSet.RoundTrip
import FilterWire.Proofs.FilterSet.Strictness
import FilterWire.Proofs.FilterSet.Separation
import FilterWire.Proofs.FilterSet.Restatement
import FilterWire.Proofs.FilterSet.Chain
import FilterWire.Proofs.Text.InOrder
import FilterWire.Proofs.Text.Case
import FilterWire.Proofs.FilterSet.Provenance
import FilterWire.Proofs.Draft.Document
import FilterWire.Proofs.Draft.Forms
import FilterWire.Proofs.Draft.Validation
import FilterWire.Proofs.FilterSet.Writable
import FilterWire.Proofs.Json.Printing
import FilterWire.Proofs.Json.RoundTrip
import FilterWire.Proofs.Text.Surrogate
import FilterWire.Proofs.FilterSet.Surrogate
import FilterWire.Proofs.Draft.Surrogate
import FilterWire.Proofs.Command.Defaults
import FilterWire.Proofs.Command.Pipe
import FilterWire.Proofs.Group.FirstGroup
import FilterWire.Proofs.Call.Grammar
import FilterWire.Proofs.Condition.Settling
import FilterWire.Proofs.Condition.Warning
import FilterWire.Proofs.Draft.BreakOff
import FilterWire.Proofs.Draft.Normal
import FilterWire.Proofs.Draft.Refusal
import FilterWire.Proofs.Command.EncodeReport
import FilterWire.Proofs.Text.Line
import FilterWire.Proofs.Comparator.Resolution
import FilterWire.Proofs.Comparator.Registration
import FilterWire.Proofs.Settings.Run
import FilterWire.Proofs.Files.Tree
import FilterWire.Proofs.Command.InitConfig
