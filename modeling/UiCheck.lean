import UiCheck.Browser.Helper
import UiCheck.Browser.Link
import UiCheck.Browser.Page
import UiCheck.Build.Command
import UiCheck.Build.Log
import UiCheck.CommandLine.Arguments
import UiCheck.CommandLine.Program
import UiCheck.CommandLine.Report
import UiCheck.Configuration
import UiCheck.Decode.Mismatch
import UiCheck.Files.Disk
import UiCheck.Files.Error
import UiCheck.Files.Listing
import UiCheck.Files.Path
import UiCheck.Files.Tree
import UiCheck.Guard.Basic
import UiCheck.Guard.Change
import UiCheck.Guard.Structure
import UiCheck.Json.Basic
import UiCheck.Json.Cursor
import UiCheck.Json.Printer
import UiCheck.Json.Reader
import UiCheck.Main
import UiCheck.Number.Binary64
import UiCheck.Number.Digits
import UiCheck.Number.Shortest
import UiCheck.Oracle.Basic
import UiCheck.Oracle.Client
import UiCheck.Oracle.Prompt
import UiCheck.Oracle.Stream
import UiCheck.Page.Basic
import UiCheck.Page.Memory
import UiCheck.Part
import UiCheck.Patch.Apply
import UiCheck.Patch.Fence
import UiCheck.Plan.Action
import UiCheck.Plan.Basic
import UiCheck.Plan.Colour
import UiCheck.Plan.Normalize
import UiCheck.Plan.Step
import UiCheck.Plan.TaggedForm
import UiCheck.Proofs.Browser.Protocol
import UiCheck.Proofs.Browser.Waiters
import UiCheck.Proofs.Build.Escapes
import UiCheck.Proofs.Build.Log
import UiCheck.Proofs.Files.Disk
import UiCheck.Proofs.Files.Edits
import UiCheck.Proofs.Files.Frame
import UiCheck.Proofs.Files.Listing
import UiCheck.Proofs.Files.Order
import UiCheck.Proofs.Files.Outline
import UiCheck.Proofs.Files.Path
import UiCheck.Proofs.Files.Sources
import UiCheck.Proofs.Files.Tree
import UiCheck.Proofs.Files.Walk
import UiCheck.Proofs.Files.Way
import UiCheck.Proofs.Guard.Address
import UiCheck.Proofs.Guard.Backup
import UiCheck.Proofs.Guard.Change
import UiCheck.Proofs.Guard.Selector
import UiCheck.Proofs.Guard.Settings
import UiCheck.Proofs.Guard.Structure
import UiCheck.Proofs.Json.Form
import UiCheck.Proofs.Json.Reading
import UiCheck.Proofs.Json.Records
import UiCheck.Proofs.Json.Scalars
import UiCheck.Proofs.Json.Taking
import UiCheck.Proofs.Number.Digits
import UiCheck.Proofs.Oracle.Stream
import UiCheck.Proofs.Page.Awaiting
import UiCheck.Proofs.Page.Lasting
import UiCheck.Proofs.Page.Listeners
import UiCheck.Proofs.Page.Recording
import UiCheck.Proofs.Page.Tracking
import UiCheck.Proofs.Patch.Accepted
import UiCheck.Proofs.Patch.Applied
import UiCheck.Proofs.Patch.Apply
import UiCheck.Proofs.Patch.Echo
import UiCheck.Proofs.Patch.Fence
import UiCheck.Proofs.Patch.Header
import UiCheck.Proofs.Patch.Physical
import UiCheck.Proofs.Patch.RoundTrip
import UiCheck.Proofs.Plan.Colour
import UiCheck.Proofs.Plan.Priority
import UiCheck.Proofs.Plan.Separator
import UiCheck.Proofs.Plan.TaggedForm
import UiCheck.Proofs.Repair.Bound
import UiCheck.Proofs.Repair.BrokenFile
import UiCheck.Proofs.Repair.Chronicle
import UiCheck.Proofs.Repair.Counting
import UiCheck.Proofs.Repair.Edits
import UiCheck.Proofs.Repair.History
import UiCheck.Proofs.Repair.Order
import UiCheck.Proofs.Repair.Outage
import UiCheck.Proofs.Repair.Patched
import UiCheck.Proofs.Repair.Recording
import UiCheck.Proofs.Repair.Replacement
import UiCheck.Proofs.Repair.Reports
import UiCheck.Proofs.Repair.Requests
import UiCheck.Proofs.Repair.Rounds
import UiCheck.Proofs.Repair.Safekeeping
import UiCheck.Proofs.Repair.Stages
import UiCheck.Proofs.Repair.Writes
import UiCheck.Proofs.Run.Conduct
import UiCheck.Proofs.Run.Course
import UiCheck.Proofs.Run.Expectations
import UiCheck.Proofs.Run.Joining
import UiCheck.Proofs.Run.Moving
import UiCheck.Proofs.Run.Pending
import UiCheck.Proofs.Run.Record
import UiCheck.Proofs.Run.Slot
import UiCheck.Proofs.Run.Summary
import UiCheck.Proofs.Run.Tally
import UiCheck.Proofs.Run.Tracking
import UiCheck.Proofs.Run.Written
import UiCheck.Proofs.Server.Address
import UiCheck.Proofs.Session.ReadBack
import UiCheck.Proofs.Session.Records
import UiCheck.Proofs.Session.Shelf
import UiCheck.Proofs.Text.Lines
import UiCheck.Proofs.Text.Removal
import UiCheck.Proofs.Text.Search
import UiCheck.Rehearsal.Machine
import UiCheck.Rehearsal.Repair
import UiCheck.Rehearsal.Shell.Arithmetic
import UiCheck.Rehearsal.Shell.Builtin.Options
import UiCheck.Rehearsal.Shell.Builtin.Places
import UiCheck.Rehearsal.Shell.Builtin.Signals
import UiCheck.Rehearsal.Shell.Builtin.Variables
import UiCheck.Rehearsal.Shell.Call
import UiCheck.Rehearsal.Shell.Command
import UiCheck.Rehearsal.Shell.Condition
import UiCheck.Rehearsal.Shell.Control
import UiCheck.Rehearsal.Shell.Editor.Reader
import UiCheck.Rehearsal.Shell.Editor.Run
import UiCheck.Rehearsal.Shell.Editor.Script
import UiCheck.Rehearsal.Shell.Expansion
import UiCheck.Rehearsal.Shell.Field
import UiCheck.Rehearsal.Shell.Finder
import UiCheck.Rehearsal.Shell.Format
import UiCheck.Rehearsal.Shell.Grammar
import UiCheck.Rehearsal.Shell.Launch
import UiCheck.Rehearsal.Shell.Octets
import UiCheck.Rehearsal.Shell.Pattern
import UiCheck.Rehearsal.Shell.Process
import UiCheck.Rehearsal.Shell.Program
import UiCheck.Rehearsal.Shell.Redirect
import UiCheck.Rehearsal.Shell.Regex.Basic
import UiCheck.Rehearsal.Shell.Regex.Reader
import UiCheck.Rehearsal.Shell.Run
import UiCheck.Rehearsal.Shell.Source
import UiCheck.Rehearsal.Shell.Subshell
import UiCheck.Rehearsal.Shell.Switch
import UiCheck.Rehearsal.Shell.Utility.Basic
import UiCheck.Rehearsal.Shell.Utility.Columns
import UiCheck.Rehearsal.Shell.Utility.Compare
import UiCheck.Rehearsal.Shell.Utility.Dump
import UiCheck.Rehearsal.Shell.Utility.Entries
import UiCheck.Rehearsal.Shell.Utility.Evaluate
import UiCheck.Rehearsal.Shell.Utility.Grep
import UiCheck.Rehearsal.Shell.Utility.LineEditor
import UiCheck.Rehearsal.Shell.Utility.Lines
import UiCheck.Rehearsal.Shell.Utility.Numbers
import UiCheck.Rehearsal.Shell.Utility.Sort
import UiCheck.Rehearsal.Shell.Utility.Translate
import UiCheck.Rehearsal.Shell.Utility.Words
import UiCheck.Rehearsal.Shell.Word
import UiCheck.Rehearsal.Shell.Wrapper
import UiCheck.Repair.Loop
import UiCheck.Repair.Outcome
import UiCheck.Repair.Phase
import UiCheck.Run.Engine
import UiCheck.Run.Reader
import UiCheck.Run.Result
import UiCheck.Run.Routine
import UiCheck.Server.Start
import UiCheck.Session.Record
import UiCheck.Session.Store
import UiCheck.Text.Blank
import UiCheck.Text.Case
import UiCheck.Text.Quoted
import UiCheck.Text.Ranges
import UiCheck.Text.Search
import UiCheck.Text.Utf8
import UiCheck.Text.Word
import UiCheck.Time.Moment
import UiCheck.Value
import UiCheck.Yaml.Cursor
import UiCheck.Yaml.Document
import UiCheck.Yaml.Error
import UiCheck.Yaml.Event
import UiCheck.Yaml.Reader
import UiCheck.Yaml.Scalar
import UiCheck.Yaml.ScalarText
import UiCheck.Yaml.Token
