import Confine.Text.Blank
import Confine.Text.Decimal
import Confine.Text.Quoted
import Confine.Hex
import Confine.Mode
import Confine.Limits
import Confine.Exit
import Confine.Usage
import Confine.Json
import Confine.Json.Reader
import Confine.Machine
import Confine.Machine.Amd64
import Confine.Code.Error
import Confine.Code.Instruction
import Confine.Journal
import Confine.Code.Attempt
import Confine.Code.Region
import Confine.Code.Block
import Confine.Code.Workbench
import Confine.Sandbox.Error
import Confine.Sandbox.Backend
import Confine.Sandbox.Basic
import Confine.Json.Records
import Confine.Sandbox.Report
import Confine.Sandbox.Operation
import Confine.Sandbox.Supervision
import Confine.Sandbox.Request
import Confine.Sandbox.Scripted
import Confine.Log.Format
import Confine.Toml.Value
import Confine.Toml.Scalar
import Confine.Toml.Quotation
import Confine.Toml.Reader
import Confine.Toml.Writer
import Confine.Settings.Basic
import Confine.Settings.Document
import Confine.Path
import Confine.Text.Utf8
import Confine.FileTree
import Confine.Location
import Confine.Settings.Store
import Confine.Fault
import Confine.Text.Octet
import Confine.Text.Real
import Confine.System.Call
import Confine.System.Stream
import Confine.System.Process
import Confine.System.Signal
import Confine.System.Access
import Confine.System.Place
import Confine.System.Request
import Confine.System.Schedule
import Confine.Shell.Number
import Confine.Shell.Syntax
import Confine.Shell.Token
import Confine.Shell.Reader
import Confine.Shell.Pattern
import Confine.Shell.State
import Confine.Shell.Arithmetic
import Confine.Shell.Act
import Confine.Shell.Lines
import Confine.Shell.Field
import Confine.Shell.Glob
import Confine.Shell.Expand
import Confine.Shell.Test
import Confine.Shell.Format
import Confine.Shell.Redirect
import Confine.Shell.Builtin.Basic
import Confine.Shell.Builtin.Signal
import Confine.Shell.Builtin.Variable
import Confine.Shell.Builtin.Limit
import Confine.Shell.Builtin.Job
import Confine.Shell.Builtin.Alias
import Confine.Shell.Builtin.Output
import Confine.Shell.Known
import Confine.Shell.Scope
import Confine.Shell.Simple
import Confine.Shell.Run
import Confine.Shell.Invocation
import Confine.Tool.Awk
import Confine.Tool.Awk.Machine
import Confine.Tool.Awk.Pattern
import Confine.Tool.Awk.Reader
import Confine.Tool.Awk.Run
import Confine.Tool.Awk.Syntax
import Confine.Tool.Awk.Token
import Confine.Tool.Awk.Value
import Confine.Tool.Basic
import Confine.Tool.Stream
import Confine.Tool.File
import Confine.Text.Regex
import Confine.Tool.Name
import Confine.Tool.Clock
import Confine.Tool.Number
import Confine.Tool.Program
import Confine.Tool.Order
import Confine.Tool.Column
import Confine.Tool.Letter
import Confine.Tool.Search
import Confine.Tool.Script
import Confine.Tool.Feed
import Confine.Text.Calendar
import Confine.Text.Digest
import Confine.Tool.Digest
import Confine.Tool.Edit
import Confine.Tool.Time
import Confine.Tool.Link
import Confine.Tool.Find
import Confine.Tool.Table
import Confine.Userland
import Confine.Sandbox.Native
import Confine.Text.Letter
import Confine.Log.Pattern
import Confine.Log.Filter
import Confine.Log.Line
import Confine.CommandLine.Grammar
import Confine.CommandLine.Reader
import Confine.CommandLine.Help
import Confine.Program.Invocation
import Confine.Program.Act
import Confine.Program.Listings
import Confine.Program.Confinement
import Confine.Program.Preferences
import Confine.Program.Run
import Confine.Main
import Confine.Proofs.Code.Loading
import Confine.Proofs.Sandbox.Exchange
import Confine.Proofs.Sandbox.Transition
import Confine.Proofs.Sandbox.Coherence
import Confine.Proofs.Sandbox.Control
import Confine.Proofs.Sandbox.Custody
import Confine.Proofs.Sandbox.Supervision
import Confine.Proofs.Sandbox.Snapshot
import Confine.Proofs.Sandbox.Failure
import Confine.Proofs.Sandbox.Recollection
import Confine.Proofs.Sandbox.Summary
import Confine.Proofs.Program.Confinement
import Confine.Proofs.Code.Recording
import Confine.Proofs.Hex.Runs
import Confine.Proofs.Sandbox.Recording
import Confine.Proofs.Sandbox.Waiting
import Confine.Workshop
import Confine.Proofs.Workshop
import Confine.Proofs.FileTree
import Confine.Proofs.Text.Decimal
import Confine.Proofs.Toml.Quotation
import Confine.Proofs.Toml.Reader
import Confine.Proofs.Settings.Assignment
import Confine.Proofs.Settings.Document
import Confine.Proofs.Settings.Store
import Confine.Proofs.Limits
import Confine.Proofs.Sandbox.Spawning
import Confine.Proofs.Program.Act
import Confine.Proofs.Program.Calling
import Confine.Proofs.Program.Preferences
import Confine.Proofs.Text.Lines
import Confine.Proofs.Code.Instruction
import Confine.Proofs.Text.Bytes
import Confine.Proofs.Hex.Writing
import Confine.Proofs.Code.Assembly
import Confine.Proofs.Hex.Joining
import Confine.Proofs.Hex.Normal
import Confine.Proofs.Limits.Order
import Confine.Proofs.Sandbox.Reading
import Confine.Proofs.Sandbox.Duration
import Confine.Proofs.Code.Layout
import Confine.Proofs.Settings.Lens
import Confine.Proofs.FileTree.Parent
import Confine.Proofs.Program.Restoring
import Confine.Proofs.Code.Region
import Confine.Proofs.Code.Arguments
import Confine.Proofs.Code.Lifetime
import Confine.Proofs.Location
import Confine.Proofs.Text.Words
import Confine.Proofs.Usage
