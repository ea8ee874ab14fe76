import AsmExplorer.Assembly.Directive
import AsmExplorer.Assembly.Disassembly
import AsmExplorer.Assembly.Document
import AsmExplorer.Assembly.Label
import AsmExplorer.Assembly.Listing
import AsmExplorer.Assembly.References
import AsmExplorer.Assembly.SourceFiles
import AsmExplorer.Assembly.SourceMap
import AsmExplorer.Command.Words
import AsmExplorer.CommandLine.Arguments
import AsmExplorer.CommandLine.Run
import AsmExplorer.Compile.Markers
import AsmExplorer.Compile.Options
import AsmExplorer.Compile.Pipeline
import AsmExplorer.Compile.RunRegistry
import AsmExplorer.Compile.Session
import AsmExplorer.Compile.ToolFinder
import AsmExplorer.Compile.Toolchain
import AsmExplorer.Data.Table
import AsmExplorer.Database.Basic
import AsmExplorer.Database.Entry
import AsmExplorer.Database.Registry
import AsmExplorer.Database.Watch
import AsmExplorer.Diagnostic
import AsmExplorer.Explorer.Basic
import AsmExplorer.Explorer.Outputs
import AsmExplorer.Failure
import AsmExplorer.Files.Access
import AsmExplorer.Files.Basic
import AsmExplorer.Files.Walk
import AsmExplorer.Host.Basic
import AsmExplorer.Json.Basic
import AsmExplorer.Json.Reader
import AsmExplorer.Machine.Basic
import AsmExplorer.Machine.Outside
import AsmExplorer.Machine.Schedule
import AsmExplorer.Machine.Signals
import AsmExplorer.Machine.Streams
import AsmExplorer.Main
import AsmExplorer.Path.Absolute
import AsmExplorer.Path.Basic
import AsmExplorer.Path.Normalize
import AsmExplorer.Path.Template
import AsmExplorer.Process.Basic
import AsmExplorer.Process.Lookup
import AsmExplorer.Process.Signal
import AsmExplorer.Process.Start
import AsmExplorer.Process.Status
import AsmExplorer.Programs.Copy
import AsmExplorer.Programs.Edit.Input
import AsmExplorer.Programs.Edit.Reader
import AsmExplorer.Programs.Edit.Run
import AsmExplorer.Programs.Edit.Script
import AsmExplorer.Programs.Edit.State
import AsmExplorer.Programs.Edit.Substitution
import AsmExplorer.Programs.Head
import AsmExplorer.Programs.Options
import AsmExplorer.Programs.Sleep
import AsmExplorer.Programs.System
import AsmExplorer.Programs.Translate
import AsmExplorer.Proofs.ArgumentGroups
import AsmExplorer.Proofs.CanonicalPaths
import AsmExplorer.Proofs.CommandWords
import AsmExplorer.Proofs.CompilationStart
import AsmExplorer.Proofs.ConcurrentRuns
import AsmExplorer.Proofs.Correlation
import AsmExplorer.Proofs.DatabaseCalls
import AsmExplorer.Proofs.DatabaseContents
import AsmExplorer.Proofs.DatabaseHistory
import AsmExplorer.Proofs.DatabaseKeys
import AsmExplorer.Proofs.DatabaseLookup
import AsmExplorer.Proofs.DeclaredSymbols
import AsmExplorer.Proofs.DisassemblyRecords
import AsmExplorer.Proofs.FileNames
import AsmExplorer.Proofs.FirstOccurrences
import AsmExplorer.Proofs.ForgottenOutputs
import AsmExplorer.Proofs.ForwardedOutput
import AsmExplorer.Proofs.GivenCommands
import AsmExplorer.Proofs.GuardedOpenings
import AsmExplorer.Proofs.InsertedIndices
import AsmExplorer.Proofs.Instructions
import AsmExplorer.Proofs.KeptLines
import AsmExplorer.Proofs.KeptOutputs
import AsmExplorer.Proofs.LabelGroups
import AsmExplorer.Proofs.LabelReferences
import AsmExplorer.Proofs.LateChecks
import AsmExplorer.Proofs.LateReadings
import AsmExplorer.Proofs.LexicalForms
import AsmExplorer.Proofs.LineEndings
import AsmExplorer.Proofs.LineSplitting
import AsmExplorer.Proofs.ListingMap
import AsmExplorer.Proofs.ListingSteps
import AsmExplorer.Proofs.MachineCalls
import AsmExplorer.Proofs.MachineDeeds
import AsmExplorer.Proofs.MachineMoments
import AsmExplorer.Proofs.MachineRuns
import AsmExplorer.Proofs.MachineTasks
import AsmExplorer.Proofs.MarkerLines
import AsmExplorer.Proofs.PaddedLines
import AsmExplorer.Proofs.PathOrder
import AsmExplorer.Proofs.PathsOfOneFile
import AsmExplorer.Proofs.QuotedCommands
import AsmExplorer.Proofs.RefusedOutput
import AsmExplorer.Proofs.RefusedWrites
import AsmExplorer.Proofs.RelaxedFilters
import AsmExplorer.Proofs.RenderedLines
import AsmExplorer.Proofs.ReportedProblems
import AsmExplorer.Proofs.RequestInterleavings
import AsmExplorer.Proofs.RequestPaths
import AsmExplorer.Proofs.RunHistory
import AsmExplorer.Proofs.RunHolders
import AsmExplorer.Proofs.RunInterleavings
import AsmExplorer.Proofs.SectionStack
import AsmExplorer.Proofs.SessionResults
import AsmExplorer.Proofs.SessionRuns
import AsmExplorer.Proofs.ShellHost
import AsmExplorer.Proofs.ShownLines
import AsmExplorer.Proofs.SourceDirectives
import AsmExplorer.Proofs.SourceMapEntries
import AsmExplorer.Proofs.StampedLines
import AsmExplorer.Proofs.StoppedRuns
import AsmExplorer.Proofs.Symbols
import AsmExplorer.Proofs.TabStops
import AsmExplorer.Proofs.TemplateExpansion
import AsmExplorer.Proofs.ToolCalls
import AsmExplorer.Proofs.ToolChoice
import AsmExplorer.Proofs.TrailingBlanks
import AsmExplorer.Proofs.WritingCompilers
import AsmExplorer.Regex.Basic
import AsmExplorer.Regex.Reader
import AsmExplorer.Settings
import AsmExplorer.Shell.Arithmetic
import AsmExplorer.Shell.Builtin
import AsmExplorer.Shell.Builtin.Arguments
import AsmExplorer.Shell.Builtin.Leaving
import AsmExplorer.Shell.Builtin.Names
import AsmExplorer.Shell.Builtin.Output
import AsmExplorer.Shell.Builtin.Signals
import AsmExplorer.Shell.Builtin.Surroundings
import AsmExplorer.Shell.Builtin.Variables
import AsmExplorer.Shell.Condition
import AsmExplorer.Shell.Evaluation
import AsmExplorer.Shell.Execution
import AsmExplorer.Shell.Expansion
import AsmExplorer.Shell.Fields
import AsmExplorer.Shell.Jobs
import AsmExplorer.Shell.PathPattern
import AsmExplorer.Shell.Pattern
import AsmExplorer.Shell.Printing
import AsmExplorer.Shell.Reader
import AsmExplorer.Shell.Redirection
import AsmExplorer.Shell.Resolution
import AsmExplorer.Shell.Script
import AsmExplorer.Shell.Startup
import AsmExplorer.Shell.State
import AsmExplorer.Shell.Token
import AsmExplorer.Text.Basic
import AsmExplorer.Text.CharClass
import AsmExplorer.Text.Integer
import AsmExplorer.Text.Line
import AsmExplorer.Text.Numeral
import AsmExplorer.Text.Octets
import AsmExplorer.Text.Quantity
import AsmExplorer.Text.Scan
import AsmExplorer.Text.Utf8
