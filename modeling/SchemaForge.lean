import SchemaForge.Build.DatabaseService
import SchemaForge.Build.Machine
import SchemaForge.Build.World
import SchemaForge.CommandLine.Arguments
import SchemaForge.CommandLine.Help
import SchemaForge.CommandLine.Run
import SchemaForge.Configuration.Basic
import SchemaForge.Configuration.Decoder
import SchemaForge.Configuration.Fingerprint
import SchemaForge.Configuration.Json
import SchemaForge.Configuration.Normal
import SchemaForge.Datum.Basic
import SchemaForge.Datum.Decoder
import SchemaForge.Decimal.Binary64
import SchemaForge.Decimal.Numeral
import SchemaForge.Decimal.Scaled
import SchemaForge.Decimal.Width
import SchemaForge.Digest.Sha256
import SchemaForge.Document
import SchemaForge.Error
import SchemaForge.FileSystem.Basic
import SchemaForge.FileSystem.Operations
import SchemaForge.FileSystem.Resolution
import SchemaForge.FileSystem.System
import SchemaForge.GenerationTask.Basic
import SchemaForge.GenerationTask.Generation
import SchemaForge.Invocation
import SchemaForge.IoFault
import SchemaForge.Json.Basic
import SchemaForge.Json.Reader
import SchemaForge.Json.Writer
import SchemaForge.Main
import SchemaForge.Migration.Checksum
import SchemaForge.Migration.History
import SchemaForge.Migration.Run
import SchemaForge.Migration.Script
import SchemaForge.Migration.ScriptName
import SchemaForge.Migration.Version
import SchemaForge.Mysql.Options
import SchemaForge.Mysql.Server
import SchemaForge.Mysql.Statement
import SchemaForge.Names
import SchemaForge.OutputDirectory
import SchemaForge.Path
import SchemaForge.Pattern.Basic
import SchemaForge.Pattern.CharSet
import SchemaForge.Pattern.Class
import SchemaForge.Pattern.Form
import SchemaForge.Pattern.Property
import SchemaForge.Pattern.Reader
import SchemaForge.Program
import SchemaForge.Project.Basic
import SchemaForge.Project.Decoder
import SchemaForge.Project.Generation
import SchemaForge.Project.Json
import SchemaForge.Project.Loading
import SchemaForge.Proofs.Build.Moves
import SchemaForge.Proofs.Build.Shutdown
import SchemaForge.Proofs.Build.Trace
import SchemaForge.Proofs.Build.Waiting
import SchemaForge.Proofs.Configuration.Canonical
import SchemaForge.Proofs.Configuration.Decoding
import SchemaForge.Proofs.Configuration.Fingerprint
import SchemaForge.Proofs.DatabaseService.Moves
import SchemaForge.Proofs.DatabaseService.Sharing
import SchemaForge.Proofs.DatabaseService.Stopping
import SchemaForge.Proofs.Document.Contract
import SchemaForge.Proofs.Document.Masking
import SchemaForge.Proofs.Document.ReadBack
import SchemaForge.Proofs.Document.Writing
import SchemaForge.Proofs.FileSystem.Beside
import SchemaForge.Proofs.FileSystem.Reading
import SchemaForge.Proofs.FileSystem.Written
import SchemaForge.Proofs.GenerationTask.Files
import SchemaForge.Proofs.GenerationTask.Handover
import SchemaForge.Proofs.GenerationTask.Isolation
import SchemaForge.Proofs.GenerationTask.Launch
import SchemaForge.Proofs.GenerationTask.OneDatabase
import SchemaForge.Proofs.GenerationTask.SideBySide
import SchemaForge.Proofs.GenerationTask.Stages
import SchemaForge.Proofs.GenerationTask.Together
import SchemaForge.Proofs.GenerationTask.UpToDate
import SchemaForge.Proofs.Json.RoundTrip
import SchemaForge.Proofs.Json.Sorted
import SchemaForge.Proofs.Migration.Admission
import SchemaForge.Proofs.Migration.Contest
import SchemaForge.Proofs.Migration.Exclusion
import SchemaForge.Proofs.Migration.Failure
import SchemaForge.Proofs.Migration.Increments
import SchemaForge.Proofs.Migration.Pending
import SchemaForge.Proofs.Migration.Repetition
import SchemaForge.Proofs.Migration.Sequence
import SchemaForge.Proofs.Migration.Steps
import SchemaForge.Proofs.Mysql.Ranks
import SchemaForge.Proofs.Mysql.Widths
import SchemaForge.Proofs.OutputDirectory.Cleaning
import SchemaForge.Proofs.OutputDirectory.Separation
import SchemaForge.Proofs.Path.Below
import SchemaForge.Proofs.Path.Join
import SchemaForge.Proofs.Path.Place
import SchemaForge.Proofs.Pattern.Words
import SchemaForge.Proofs.Program.Interference
import SchemaForge.Proofs.Program.Pool
import SchemaForge.Proofs.Program.Trace
import SchemaForge.Proofs.Project.Resolution
import SchemaForge.Proofs.Project.Scratch
import SchemaForge.Proofs.Schema.Bundled
import SchemaForge.Proofs.Schema.Hiding
import SchemaForge.Proofs.Schema.Holds
import SchemaForge.Proofs.Schema.PackageName
import SchemaForge.Rehearsal.Databases
import SchemaForge.Schema.Basic
import SchemaForge.Schema.Bundled
import SchemaForge.Schema.Reader
import SchemaForge.Settings.Address
import SchemaForge.Settings.Layer
import SchemaForge.Shell.Arithmetic
import SchemaForge.Shell.Builtin
import SchemaForge.Shell.Condition
import SchemaForge.Shell.Evaluator
import SchemaForge.Shell.Field
import SchemaForge.Shell.FileTools
import SchemaForge.Shell.Glob
import SchemaForge.Shell.Launch
import SchemaForge.Shell.Printing
import SchemaForge.Shell.Reader
import SchemaForge.Shell.Script
import SchemaForge.Shell.State
import SchemaForge.Shell.TextTools
import SchemaForge.Shell.Token
import SchemaForge.Text.Blank
import SchemaForge.Text.CaseFold
import SchemaForge.Text.Category
import SchemaForge.Text.Lowercase
import SchemaForge.Text.Printable
import SchemaForge.Text.Property
import SchemaForge.Text.Quoted
import SchemaForge.Text.Script
import SchemaForge.Text.Utf8
import SchemaForge.Toml.Moment
import SchemaForge.Toml.Node
import SchemaForge.Toml.Number
import SchemaForge.Toml.Reader
import SchemaForge.Toml.Text
import SchemaForge.Url.Basic
import SchemaForge.Url.Ipv4
import SchemaForge.Url.Ipv6
import SchemaForge.Url.Percent
import SchemaForge.Proofs.Migration.VersionPadding
import SchemaForge.Proofs.Mysql.ReadBack
import SchemaForge.Proofs.Migration.Attribution
import SchemaForge.Proofs.FileSystem.Reorder
import SchemaForge.Proofs.Migration.Discovery
import SchemaForge.Proofs.Migration.Spelling
import SchemaForge.Proofs.OutputDirectory.Acceptance
import SchemaForge.Proofs.OutputDirectory.Emptying
import SchemaForge.Proofs.GenerationTask.Preparation
import SchemaForge.Proofs.Configuration.NormalForm
import SchemaForge.Proofs.GenerationTask.Validity
import SchemaForge.Proofs.Project.Selection
import SchemaForge.Proofs.Document.Effect
import SchemaForge.Proofs.Mysql.Identifier
import SchemaForge.Proofs.Migration.LineEnds
import SchemaForge.Proofs.Names
import SchemaForge.Proofs.Invocation
import SchemaForge.Proofs.DatabaseService.Idle
import SchemaForge.Proofs.Build.Log
