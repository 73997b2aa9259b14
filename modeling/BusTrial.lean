import BusTrial.Act
import BusTrial.Bench
import BusTrial.Bus.Busctl
import BusTrial.Bus.Link
import BusTrial.Bus.Scripted
import BusTrial.Bus.TypedReply
import BusTrial.CommandLine.Condition
import BusTrial.CommandLine.Invocation
import BusTrial.CommandLine.Rehearsal
import BusTrial.CommandLine.Run
import BusTrial.CommandLine.Words
import BusTrial.Config.Basic
import BusTrial.Config.File
import BusTrial.Config.Load
import BusTrial.Config.Patch
import BusTrial.Decimal.Binary
import BusTrial.Decimal.Layout
import BusTrial.Decimal.Power
import BusTrial.Decimal.Reading
import BusTrial.Decimal.Shortest
import BusTrial.Device.Clock
import BusTrial.Device.Files
import BusTrial.Device.Processes
import BusTrial.Device.RunLog
import BusTrial.Device.Terminal
import BusTrial.Directory
import BusTrial.Environment
import BusTrial.Failure
import BusTrial.FilePath
import BusTrial.Flight.Record
import BusTrial.Flight.TestId
import BusTrial.HostCommand
import BusTrial.Journal.Entry
import BusTrial.Journal.Export
import BusTrial.Journal.Source
import BusTrial.Json.Basic
import BusTrial.Json.Fault
import BusTrial.Json.Number
import BusTrial.Json.Printer
import BusTrial.Json.Reader
import BusTrial.Json.Reading
import BusTrial.KeyMap
import BusTrial.Main
import BusTrial.ObjectPath
import BusTrial.Probe.Assertion
import BusTrial.Probe.Basic
import BusTrial.Probe.Timing
import BusTrial.Recorder.Basic
import BusTrial.Recorder.Command
import BusTrial.Recorder.Journal
import BusTrial.Recorder.Session
import BusTrial.Signature
import BusTrial.Suite.Basic
import BusTrial.Suite.Distro
import BusTrial.Table
import BusTrial.Text.Blank
import BusTrial.Text.Hex
import BusTrial.Text.Split
import BusTrial.Text.Take
import BusTrial.Text.Utf8
import BusTrial.Text.Visible
import BusTrial.Time.Basic
import BusTrial.Time.Calendar
import BusTrial.Toml.Basic
import BusTrial.Toml.Document
import BusTrial.Toml.Number
import BusTrial.Toml.Quoted
import BusTrial.Toml.Reader
import BusTrial.Unstable
import BusTrial.Value.Arguments
import BusTrial.Value.Basic
import BusTrial.Value.ByteText
import BusTrial.Value.Compare
import BusTrial.Value.Decode
import BusTrial.Value.Display
import BusTrial.Value.Literal
import BusTrial.Proofs.Act
import BusTrial.Proofs.KeyMap
import BusTrial.Proofs.Success
import BusTrial.Proofs.Session.Calls
import BusTrial.Proofs.Session.History
import BusTrial.Proofs.Session.Bracketing
import BusTrial.Proofs.Probe.Waiting
import BusTrial.Proofs.Probe.Verdict
import BusTrial.Proofs.Bus.Busctl
import BusTrial.Proofs.Bus.Scripted
import BusTrial.Proofs.Probe.Polling
import BusTrial.Proofs.Decimal
import BusTrial.Proofs.Signature.Cutting
import BusTrial.Proofs.Signature.Concatenation
import BusTrial.Proofs.Signature.Grammar
import BusTrial.Proofs.Value.Parts
import BusTrial.Proofs.Value.Keyed
import BusTrial.Proofs.Value.Plain
import BusTrial.Proofs.Value.Order
import BusTrial.Proofs.Value.Literal
import BusTrial.Proofs.Value.Arguments
import BusTrial.Proofs.Value.Reading
import BusTrial.Proofs.Value.ByteText
import BusTrial.Proofs.Value.Malformed
import BusTrial.Proofs.Value.Resending
import BusTrial.Proofs.Device
import BusTrial.Proofs.Failure
import BusTrial.Proofs.Recorder
import BusTrial.Proofs.Session.Transport
import BusTrial.Proofs.Session.Crash
import BusTrial.Proofs.Flight.TestId
import BusTrial.Proofs.Flight.Calls
import BusTrial.Proofs.Flight.History
import BusTrial.Proofs.Flight.Sections
import BusTrial.Proofs.Flight.Verdict
import BusTrial.Proofs.Flight.Blocks
import BusTrial.Proofs.Unstable
import BusTrial.Proofs.Environment
import BusTrial.Proofs.Config.Acceptance
import BusTrial.Proofs.Config.Keys
import BusTrial.Proofs.Config.Layers
import BusTrial.Proofs.Deeds
import BusTrial.Proofs.HostCommand
import BusTrial.Proofs.Config.Consumers
import BusTrial.Proofs.Text
import BusTrial.Proofs.Directory.Asking
import BusTrial.Proofs.Directory.Modules
import BusTrial.Proofs.Directory.Subtree
import BusTrial.Proofs.ObjectPath
import BusTrial.Proofs.Directory.BasePath
import BusTrial.Proofs.Json.Printing
import BusTrial.Proofs.Json.Steps
import BusTrial.Proofs.Json.Scalars
import BusTrial.Proofs.Json.RoundTrip
import BusTrial.Proofs.RunLog
import BusTrial.Proofs.PayloadLimit
import BusTrial.Proofs.CommandLine.Record
import BusTrial.Proofs.CommandLine.Unstable
import BusTrial.Proofs.CommandLine.Probe
import BusTrial.Proofs.CommandLine.Equals
import BusTrial.Proofs.Processes.Calls
import BusTrial.Proofs.Processes.Monitors
import BusTrial.Proofs.Processes.Turns
import BusTrial.Proofs.Processes.Custody
import BusTrial.Proofs.Journal.Window
import BusTrial.Proofs.Journal.Saving
import BusTrial.Proofs.Flight.Cause
