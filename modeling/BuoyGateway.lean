import BuoyGateway.CommandLine.Arguments
import BuoyGateway.CommandLine.Display
import BuoyGateway.CommandLine.Execution
import BuoyGateway.Decimal.Binary64
import BuoyGateway.Decimal.Numeral
import BuoyGateway.Decimal.Places
import BuoyGateway.Decimal.Shortest
import BuoyGateway.Disk.Basic
import BuoyGateway.Disk.Files
import BuoyGateway.Disk.Path
import BuoyGateway.Failure
import BuoyGateway.Json.Error
import BuoyGateway.Json.Lexical
import BuoyGateway.Json.Number
import BuoyGateway.Json.Reader
import BuoyGateway.Json.Record
import BuoyGateway.Json.Skip
import BuoyGateway.Json.Writer
import BuoyGateway.Launch.Action
import BuoyGateway.Launch.Boot
import BuoyGateway.Launch.Invocation
import BuoyGateway.Launch.Output
import BuoyGateway.Launch.System
import BuoyGateway.Log
import BuoyGateway.Main
import BuoyGateway.Settings
import BuoyGateway.Settings.File
import BuoyGateway.Shell.Account
import BuoyGateway.Shell.Arithmetic
import BuoyGateway.Shell.Builtin
import BuoyGateway.Shell.Builtin.Basic
import BuoyGateway.Shell.Builtin.Control
import BuoyGateway.Shell.Builtin.Directory
import BuoyGateway.Shell.Builtin.Names
import BuoyGateway.Shell.Builtin.Signals
import BuoyGateway.Shell.Builtin.Variables
import BuoyGateway.Shell.Condition
import BuoyGateway.Shell.Evaluation
import BuoyGateway.Shell.Execution
import BuoyGateway.Shell.Expansion
import BuoyGateway.Shell.Field
import BuoyGateway.Shell.Format
import BuoyGateway.Shell.Grammar
import BuoyGateway.Shell.Installation
import BuoyGateway.Shell.Pattern
import BuoyGateway.Shell.Place
import BuoyGateway.Shell.Process
import BuoyGateway.Shell.Program
import BuoyGateway.Shell.Redirection
import BuoyGateway.Shell.Regex
import BuoyGateway.Shell.Rules.Basic
import BuoyGateway.Shell.Rules.Evaluation
import BuoyGateway.Shell.Rules.Grammar
import BuoyGateway.Shell.Rules.Machine
import BuoyGateway.Shell.Rules.Table
import BuoyGateway.Shell.Rules.Text
import BuoyGateway.Shell.Rules.Token
import BuoyGateway.Shell.Rules.Value
import BuoyGateway.Shell.Script
import BuoyGateway.Shell.Signal
import BuoyGateway.Shell.Source
import BuoyGateway.Shell.Stream
import BuoyGateway.Shell.Switch
import BuoyGateway.Shell.Tree
import BuoyGateway.Shell.Utility
import BuoyGateway.Shell.Utility.Basic
import BuoyGateway.Shell.Utility.Calculating
import BuoyGateway.Shell.Utility.Characters
import BuoyGateway.Shell.Utility.Comparing
import BuoyGateway.Shell.Utility.Digest
import BuoyGateway.Shell.Utility.Dumping
import BuoyGateway.Shell.Utility.Editing
import BuoyGateway.Shell.Utility.Editor
import BuoyGateway.Shell.Utility.Encoding
import BuoyGateway.Shell.Utility.Fields
import BuoyGateway.Shell.Utility.Filing
import BuoyGateway.Shell.Utility.Finding
import BuoyGateway.Shell.Utility.Joining
import BuoyGateway.Shell.Utility.Launching
import BuoyGateway.Shell.Utility.Listing
import BuoyGateway.Shell.Utility.Machine
import BuoyGateway.Shell.Utility.Matching
import BuoyGateway.Shell.Utility.Naming
import BuoyGateway.Shell.Utility.Order
import BuoyGateway.Shell.Utility.Portions
import BuoyGateway.Shell.Utility.Rights
import BuoyGateway.Shell.Utility.Ruling
import BuoyGateway.Shell.Utility.Saying
import BuoyGateway.Shell.Utility.Shown
import BuoyGateway.Shell.Utility.Text
import BuoyGateway.Sms.Command
import BuoyGateway.Sms.Handling
import BuoyGateway.Sms.Message
import BuoyGateway.Sms.Modem
import BuoyGateway.Sms.Station
import BuoyGateway.Spool.Basic
import BuoyGateway.Spool.Modem
import BuoyGateway.Spool.Outbox
import BuoyGateway.Spool.Polling
import BuoyGateway.Spool.Record
import BuoyGateway.Spool.Watch
import BuoyGateway.SystemError
import BuoyGateway.Text.Blank
import BuoyGateway.Text.Clip
import BuoyGateway.Text.GraphemeExtend
import BuoyGateway.Text.Octets
import BuoyGateway.Text.Quoted
import BuoyGateway.Text.Unprintable
import BuoyGateway.Text.Utf8
import BuoyGateway.Time.Calendar
import BuoyGateway.Time.Instant
import BuoyGateway.Time.Rfc3339
import BuoyGateway.Proofs.Sms.Exchange
import BuoyGateway.Proofs.Sms.Handling
import BuoyGateway.Proofs.Disk.View
import BuoyGateway.Proofs.Disk.Way
import BuoyGateway.Proofs.Disk.Directories
import BuoyGateway.Proofs.Spool.Arrivals
import BuoyGateway.Proofs.Spool.Look
import BuoyGateway.Proofs.Disk.Changes
import BuoyGateway.Proofs.Spool.Rejection
import BuoyGateway.Proofs.Spool.Undisturbed
import BuoyGateway.Proofs.Spool.History
import BuoyGateway.Proofs.Spool.Fullness
import BuoyGateway.Proofs.Spool.Redelivery
import BuoyGateway.Proofs.Spool.FileNames
import BuoyGateway.Proofs.Spool.Queueing
import BuoyGateway.Proofs.Spool.Standing
import BuoyGateway.Proofs.Spool.Clearance
import BuoyGateway.Proofs.Spool.Answering
import BuoyGateway.Proofs.Spool.Attending
import BuoyGateway.Proofs.Spool.Session
import BuoyGateway.Proofs.Json.Extension
import BuoyGateway.Proofs.Json.Record
import BuoyGateway.Proofs.Text.Utf8
import BuoyGateway.Proofs.Spool.Growing
import BuoyGateway.Proofs.Spool.Tracking
import BuoyGateway.Proofs.Spool.Reachable
import BuoyGateway.Proofs.Spool.Scripts
import BuoyGateway.Proofs.Spool.Numbers
import BuoyGateway.Proofs.Spool.Watching
import BuoyGateway.Proofs.Spool.Subscribing
import BuoyGateway.Proofs.Decimal.Numeral
import BuoyGateway.Proofs.Time.Calendar
import BuoyGateway.Proofs.Time.Rfc3339
import BuoyGateway.Proofs.Json.Writing
import BuoyGateway.Proofs.Spool.Records
import BuoyGateway.Proofs.Spool.OutboxFiles
import BuoyGateway.Proofs.Spool.Ledger
import BuoyGateway.Proofs.Spool.Restarts
import BuoyGateway.Proofs.Text.Run
import BuoyGateway.Proofs.Text.Cut
import BuoyGateway.Proofs.Sms.Spelling
import BuoyGateway.Proofs.Sms.Slices
import BuoyGateway.Proofs.Steps
import BuoyGateway.Proofs.Json.Layout
import BuoyGateway.Proofs.Json.Keeping
import BuoyGateway.Proofs.Time.Reading
import BuoyGateway.Proofs.Spool.RoundTrip
import BuoyGateway.Proofs.Spool.Once
import BuoyGateway.Proofs.Text.Order
import BuoyGateway.Proofs.Spool.Sorting
import BuoyGateway.Proofs.Sms.Confinement
import BuoyGateway.Proofs.Text.Clip
import BuoyGateway.Proofs.Spool.Replies
import BuoyGateway.Proofs.Sms.Sending
import BuoyGateway.Proofs.Sms.Handles
import BuoyGateway.Proofs.Spool.Namesakes
import BuoyGateway.Proofs.Decimal.Order
import BuoyGateway.Proofs.Time.Stamp
import BuoyGateway.Proofs.Spool.Listing
import BuoyGateway.Proofs.Json.Words
import BuoyGateway.Proofs.Json.Grammar
import BuoyGateway.Proofs.Json.Members
import BuoyGateway.Proofs.Settings.Overlay
import BuoyGateway.Proofs.Text.Lossy
import BuoyGateway.Proofs.Launch.Lines
import BuoyGateway.Proofs.Launch.Relay
import BuoyGateway.Proofs.Launch.System
