import Contracts.Annotation.Basic
import Contracts.Annotation.Judgement
import Contracts.Annotation.SelfCheck
import Contracts.Command.Check
import Contracts.Command.Replay
import Contracts.Command.Run
import Contracts.CommandLine.Request
import Contracts.CommandLine.Switch
import Contracts.Declaration.Catalogue
import Contracts.Declaration.Json
import Contracts.Declaration.Member
import Contracts.Declaration.TypeDecl
import Contracts.Declaration.TypeTable
import Contracts.Diagnostic
import Contracts.Failure.Basic
import Contracts.Failure.Policy
import Contracts.File.Basic
import Contracts.File.Folder
import Contracts.Json.Basic
import Contracts.Json.Decode
import Contracts.Json.Number
import Contracts.Json.Printer
import Contracts.Json.Reader
import Contracts.Json.Token
import Contracts.Log.Config
import Contracts.Log.Event
import Contracts.Log.Filter
import Contracts.Log.Line
import Contracts.Main
import Contracts.Manifest.Attribute
import Contracts.Manifest.Basic
import Contracts.Manifest.Load
import Contracts.Number.Binary64
import Contracts.Number.Shortest
import Contracts.Pattern.Expression
import Contracts.Pattern.Fault
import Contracts.Pattern.Matcher
import Contracts.Pattern.Meaning
import Contracts.Pattern.Normal
import Contracts.Pattern.Reader
import Contracts.Pattern.Regex
import Contracts.Pattern.Size
import Contracts.Rule.Interval
import Contracts.Rule.Pattern
import Contracts.Rule.Presence
import Contracts.Rule.Primitive
import Contracts.Settings.Basic
import Contracts.Settings.Layers
import Contracts.Settings.Variable
import Contracts.Text.Quoted
import Contracts.Toml.Printer
import Contracts.Toml.Reader
import Contracts.Toml.Scalar
import Contracts.Toml.Table
import Contracts.Unicode.Additions
import Contracts.Unicode.Age
import Contracts.Unicode.BinaryProperty
import Contracts.Unicode.Breaks
import Contracts.Unicode.CaseChange
import Contracts.Unicode.Category
import Contracts.Unicode.Character
import Contracts.Unicode.CodeSet
import Contracts.Unicode.Folding
import Contracts.Unicode.Letters
import Contracts.Unicode.Lookup
import Contracts.Unicode.Marks
import Contracts.Unicode.Numbers
import Contracts.Unicode.Properties
import Contracts.Unicode.Property
import Contracts.Unicode.Punctuation
import Contracts.Unicode.Runs
import Contracts.Unicode.Script
import Contracts.Unicode.ScriptExtensions
import Contracts.Unicode.ScriptsAtoL
import Contracts.Unicode.ScriptsMtoZ
import Contracts.Unicode.Separators
import Contracts.Unicode.Symbols
import Contracts.Value.Basic
import Contracts.Value.Json
import Contracts.Value.Order
import Contracts.Weaving.Plan
import Contracts.Weaving.Scan
import Contracts.Weaving.Sink
import Contracts.Weaving.Validator
import Contracts.Proofs.Annotation.Admission
import Contracts.Proofs.Annotation.ErrorTypes
import Contracts.Proofs.Annotation.Form
import Contracts.Proofs.Annotation.History
import Contracts.Proofs.Annotation.Misconfiguration
import Contracts.Proofs.Annotation.Problems
import Contracts.Proofs.Annotation.Readiness
import Contracts.Proofs.Annotation.Reconfiguration
import Contracts.Proofs.Annotation.Repetition
import Contracts.Proofs.Annotation.Severity
import Contracts.Proofs.Annotation.Transparency
import Contracts.Proofs.Command.Passing
import Contracts.Proofs.Command.Paths
import Contracts.Proofs.Declaration.Building
import Contracts.Proofs.Declaration.Chains
import Contracts.Proofs.Declaration.Collections
import Contracts.Proofs.Declaration.RoundTrip
import Contracts.Proofs.Declaration.Tables
import Contracts.Proofs.Json.Printing
import Contracts.Proofs.Json.Reading
import Contracts.Proofs.Json.Reordering
import Contracts.Proofs.Json.Strictness
import Contracts.Proofs.Json.Yields
import Contracts.Proofs.Manifest.Fresh
import Contracts.Proofs.Manifest.Numbering
import Contracts.Proofs.Manifest.Strictness
import Contracts.Proofs.Number.Exact
import Contracts.Proofs.Parts
import Contracts.Proofs.Rule.Forms
import Contracts.Proofs.Rule.Interval
import Contracts.Proofs.Value.Objects
import Contracts.Proofs.Value.Order
import Contracts.Proofs.Value.RoundTrip
import Contracts.Proofs.Value.Trees
import Contracts.Proofs.Weaving.Acceptance
import Contracts.Proofs.Weaving.Accounting
import Contracts.Proofs.Weaving.Calls
import Contracts.Proofs.Weaving.Copies
import Contracts.Proofs.Weaving.Distinct
import Contracts.Proofs.Weaving.Effects
import Contracts.Proofs.Weaving.Evolution
import Contracts.Proofs.Weaving.Independence
import Contracts.Proofs.Weaving.Log
import Contracts.Proofs.Weaving.Registration
import Contracts.Proofs.Weaving.Rescan
import Contracts.Proofs.Weaving.Sinks
import Contracts.Proofs.Weaving.Soundness
import Contracts.Proofs.Weaving.TextArguments
