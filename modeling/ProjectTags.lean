import ProjectTags.Cli.Invocation
import ProjectTags.Cli.Run
import ProjectTags.Cli.Switch
import ProjectTags.Command.Indexer
import ProjectTags.Command.Line
import ProjectTags.Database
import ProjectTags.Duration
import ProjectTags.Failure
import ProjectTags.Job.Worker
import ProjectTags.Job.Execution
import ProjectTags.Listing
import ProjectTags.Log
import ProjectTags.Machine.Changes
import ProjectTags.Machine.Fault
import ProjectTags.Machine.FileTree
import ProjectTags.Machine.Program
import ProjectTags.Machine.Search
import ProjectTags.Main
import ProjectTags.Path.Basic
import ProjectTags.Path.Home
import ProjectTags.Path.Set
import ProjectTags.Pattern.Enclosure
import ProjectTags.Pattern.Escape
import ProjectTags.Pattern.Group
import ProjectTags.Pattern.Highlight
import ProjectTags.Pattern.NamedClass
import ProjectTags.Pattern.Quantifier
import ProjectTags.Pattern.Vim
import ProjectTags.Proofs.Job.WorkerRun
import ProjectTags.Proofs.Text.Pieces
import ProjectTags.Query.Basic
import ProjectTags.Query.ProcessTable
import ProjectTags.Query.ResultLine
import ProjectTags.Query.Session
import ProjectTags.Registry.Entry
import ProjectTags.Registry.Lookup
import ProjectTags.Root.Resolver
import ProjectTags.Root.Search
import ProjectTags.Settings.Basic
import ProjectTags.Settings.Check
import ProjectTags.Settings.Document
import ProjectTags.Settings.File
import ProjectTags.Settings.Template
import ProjectTags.Shell.Arithmetic
import ProjectTags.Shell.Builtin
import ProjectTags.Shell.Control
import ProjectTags.Shell.Cursor
import ProjectTags.Shell.Directory
import ProjectTags.Shell.Evaluation
import ProjectTags.Shell.Expansion
import ProjectTags.Shell.Fields
import ProjectTags.Shell.Glob
import ProjectTags.Shell.Job
import ProjectTags.Shell.Lookup
import ProjectTags.Shell.Options
import ProjectTags.Shell.Parameter
import ProjectTags.Shell.Parser
import ProjectTags.Shell.Redirection
import ProjectTags.Shell.Script
import ProjectTags.Shell.Signal
import ProjectTags.Shell.Simple
import ProjectTags.Shell.Start
import ProjectTags.Shell.State
import ProjectTags.Shell.Switch
import ProjectTags.Shell.Syntax
import ProjectTags.Shell.Token
import ProjectTags.Shell.Word
import ProjectTags.Store
import ProjectTags.Target
import ProjectTags.Text.Basic
import ProjectTags.Text.Blank
import ProjectTags.Text.CharClass
import ProjectTags.Text.Decimal
import ProjectTags.Text.Field
import ProjectTags.Text.Formatted
import ProjectTags.Text.Hexadecimal
import ProjectTags.Text.Integer
import ProjectTags.Text.Lines
import ProjectTags.Text.Mode
import ProjectTags.Text.Quoted
import ProjectTags.Text.Regex.Basic
import ProjectTags.Text.Regex.Reader
import ProjectTags.Text.Utf8
import ProjectTags.Text.Substitution
import ProjectTags.Text.WordChar
import ProjectTags.Toml.Document
import ProjectTags.Toml.Moment
import ProjectTags.Toml.Number
import ProjectTags.Toml.Quotation
import ProjectTags.Toml.Reader
import ProjectTags.Toml.Table
import ProjectTags.Tool.Basic
import ProjectTags.Tool.Characters
import ProjectTags.Tool.Columns
import ProjectTags.Tool.Condition
import ProjectTags.Tool.Files
import ProjectTags.Tool.Find.Expression
import ProjectTags.Tool.Find.Walk
import ProjectTags.Tool.Grep
import ProjectTags.Tool.Input
import ProjectTags.Tool.Launch
import ProjectTags.Tool.Lines
import ProjectTags.Tool.Names
import ProjectTags.Tool.Print
import ProjectTags.Tool.Show
import ProjectTags.Tool.Switch
import ProjectTags.Tool.Table
import ProjectTags.Proofs.Path.Normal
import ProjectTags.Proofs.Path.Components
import ProjectTags.Proofs.Database.Naming
import ProjectTags.Proofs.Root.Memory
import ProjectTags.Proofs.Machine.Lookup
import ProjectTags.Proofs.Machine.Effects
import ProjectTags.Proofs.Text.Lines
import ProjectTags.Proofs.Registry.RoundTrip
import ProjectTags.Proofs.Store.Sources
import ProjectTags.Proofs.Job.Acts
import ProjectTags.Proofs.Job.Isolation
import ProjectTags.Proofs.Store.Isolation
import ProjectTags.Proofs.Job.Records
import ProjectTags.Proofs.Job.History
import ProjectTags.Proofs.Store.Requests
import ProjectTags.Proofs.Pattern.Quantifiers
import ProjectTags.Proofs.Pattern.Groups
import ProjectTags.Proofs.Pattern.Assertions
import ProjectTags.Proofs.Text.Decimal
import ProjectTags.Proofs.Query.RoundTrip
import ProjectTags.Proofs.Pattern.Escapes
import ProjectTags.Proofs.Pattern.Dialects
import ProjectTags.Proofs.Pattern.Operators
import ProjectTags.Proofs.Pattern.Quoting
import ProjectTags.Proofs.Query.ProcessTable
import ProjectTags.Proofs.Query.Databases
import ProjectTags.Proofs.Query.Highlighting
import ProjectTags.Proofs.Query.ProcessRun
import ProjectTags.Proofs.Query.Callers
import ProjectTags.Proofs.Query.Ownership
import ProjectTags.Proofs.Path.Climbing
import ProjectTags.Proofs.Store.FileUpdates
import ProjectTags.Proofs.Store.Generation
import ProjectTags.Proofs.Path.Spelling
import ProjectTags.Proofs.Pattern.Highlight
import ProjectTags.Proofs.Pattern.PlainText
import ProjectTags.Proofs.Pattern.Separation
import ProjectTags.Proofs.Query.LineGrammar
import ProjectTags.Proofs.Job.LibraryBuilds
import ProjectTags.Proofs.Command.Arguments
import ProjectTags.Proofs.Command.IndexerCalls
import ProjectTags.Proofs.Query.Arguments
import ProjectTags.Proofs.Shell.Reading
import ProjectTags.Proofs.Shell.Spelled
import ProjectTags.Proofs.Shell.Literal
import ProjectTags.Proofs.Listing.RootWord
import ProjectTags.Proofs.Shell.SimpleCommand
import ProjectTags.Proofs.Shell.Expanding
import ProjectTags.Proofs.Tool.Alternatives
import ProjectTags.Proofs.Listing.StartingPoint
import ProjectTags.Proofs.Pattern.QuantifierRules
import ProjectTags.Proofs.Path.TextPrefix
import ProjectTags.Proofs.Root.Recognition
