import CommandTemplates.Calendar.Format
import CommandTemplates.Calendar.Moment
import CommandTemplates.Calendar.Timestamp
import CommandTemplates.Command
import CommandTemplates.CommandLine.Arguments
import CommandTemplates.CommandLine.Help
import CommandTemplates.CommandLine.Session
import CommandTemplates.Data.Dictionary
import CommandTemplates.Data.Json
import CommandTemplates.Data.SortedMap
import CommandTemplates.Data.Toml.Document
import CommandTemplates.Data.Toml.Scalar
import CommandTemplates.Data.Value
import CommandTemplates.Event
import CommandTemplates.Host
import CommandTemplates.Listing
import CommandTemplates.Main
import CommandTemplates.Parameter
import CommandTemplates.Path
import CommandTemplates.Placeholder
import CommandTemplates.Platform
import CommandTemplates.Preparation
import CommandTemplates.Prompt.Channel
import CommandTemplates.Prompt.Lines
import CommandTemplates.Prompt.Preaction
import CommandTemplates.Proofs.Calendar.LongestToken
import CommandTemplates.Proofs.Command.Switches
import CommandTemplates.Proofs.CommandLine.Confinement
import CommandTemplates.Proofs.Data.Json.RoundTrip
import CommandTemplates.Proofs.Data.Json.Scalar
import CommandTemplates.Proofs.Host.Atomicity
import CommandTemplates.Proofs.Host.Identifiers
import CommandTemplates.Proofs.Host.Partition
import CommandTemplates.Proofs.Host.Renaming
import CommandTemplates.Proofs.Host.Session
import CommandTemplates.Proofs.Host.Sync
import CommandTemplates.Proofs.Host.Unasked
import CommandTemplates.Proofs.Host.Values
import CommandTemplates.Proofs.Path.Join
import CommandTemplates.Proofs.Path.Steps
import CommandTemplates.Proofs.Placeholder.Encoding
import CommandTemplates.Proofs.Placeholder.Gaps
import CommandTemplates.Proofs.Placeholder.SelfContained
import CommandTemplates.Proofs.Preparation.Answers
import CommandTemplates.Proofs.Preparation.Course
import CommandTemplates.Proofs.Preparation.Preview
import CommandTemplates.Proofs.Preparation.Protocol
import CommandTemplates.Proofs.Prompt.Answers
import CommandTemplates.Proofs.Prompt.Exchange
import CommandTemplates.Proofs.Prompt.Storing
import CommandTemplates.Proofs.Settings.RoundTrip
import CommandTemplates.Proofs.Settings.Rules
import CommandTemplates.Proofs.Table.Color
import CommandTemplates.Proofs.Table.Layout
import CommandTemplates.Proofs.Table.Pieces
import CommandTemplates.Proofs.Template.Calls
import CommandTemplates.Proofs.Template.Generations
import CommandTemplates.Proofs.Template.Independence
import CommandTemplates.Proofs.Template.Lifecycle
import CommandTemplates.Proofs.Template.Messages
import CommandTemplates.Proofs.Template.Substitution
import CommandTemplates.Proofs.Template.Unknown
import CommandTemplates.Proofs.Text.Encoding
import CommandTemplates.Proofs.Text.Lines
import CommandTemplates.Proofs.Variable.Address
import CommandTemplates.Proofs.Variable.Availability
import CommandTemplates.Proofs.Variable.Binding
import CommandTemplates.Proofs.Variable.Edits
import CommandTemplates.Proofs.Variable.FileName
import CommandTemplates.Proofs.Variable.FilePlace
import CommandTemplates.Proofs.Variable.Names
import CommandTemplates.Proofs.Variable.Numbering
import CommandTemplates.Proofs.Variable.SetAlgebra
import CommandTemplates.Report
import CommandTemplates.Settings.Basic
import CommandTemplates.Settings.Decode
import CommandTemplates.Settings.Document
import CommandTemplates.Settings.Encode
import CommandTemplates.Settings.Validation
import CommandTemplates.Span
import CommandTemplates.Table
import CommandTemplates.Template.Expansion
import CommandTemplates.Template.Token
import CommandTemplates.Text.Casing
import CommandTemplates.Text.Classes
import CommandTemplates.Text.CodePoints
import CommandTemplates.Text.Decimal
import CommandTemplates.Text.Quoted
import CommandTemplates.Text.Shortest
import CommandTemplates.Text.Table.Alphabetic
import CommandTemplates.Text.Table.CaseIgnorable
import CommandTemplates.Text.Table.Cased
import CommandTemplates.Text.Table.DecimalDigit
import CommandTemplates.Text.Table.GraphemeExtend
import CommandTemplates.Text.Table.Latest
import CommandTemplates.Text.Table.Lowercase
import CommandTemplates.Text.Table.Mark
import CommandTemplates.Text.Table.Number
import CommandTemplates.Text.Table.Unprintable
import CommandTemplates.Text.Utf8
import CommandTemplates.Variable.Basic
import CommandTemplates.Variable.Builtin
import CommandTemplates.Variable.Canned
import CommandTemplates.Variable.Fallback
import CommandTemplates.Variable.Registry
import CommandTemplates.Variable.Set
import CommandTemplates.Workspace
