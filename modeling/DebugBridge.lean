import DebugBridge.Bridge.Basic
import DebugBridge.Bridge.Listening
import DebugBridge.Bytes
import DebugBridge.Device.Basic
import DebugBridge.Device.Document
import DebugBridge.Device.Tests
import DebugBridge.Dict
import DebugBridge.Emulator.Console
import DebugBridge.Error
import DebugBridge.Events.Dispatcher
import DebugBridge.Instrumentation.Parser
import DebugBridge.Instrumentation.Printed
import DebugBridge.Instrumentation.Request
import DebugBridge.Json.Reader
import DebugBridge.LocalFiles
import DebugBridge.MemoryDaemon.Live
import DebugBridge.Monitor.History
import DebugBridge.Monitor.Interleaving
import DebugBridge.Monitor.Ports
import DebugBridge.Package.Install
import DebugBridge.PortPool
import DebugBridge.Proofs.Bridge.Shutdown
import DebugBridge.Proofs.Device.Tests
import DebugBridge.Proofs.Events.Dispatcher
import DebugBridge.Proofs.Events.Visits
import DebugBridge.Proofs.Instrumentation.Closing
import DebugBridge.Proofs.Instrumentation.Printed
import DebugBridge.Proofs.Monitor.Errands
import DebugBridge.Proofs.Monitor.Following
import DebugBridge.Proofs.Monitor.History
import DebugBridge.Proofs.Monitor.Ports
import DebugBridge.Proofs.Monitor.Reconnecting
import DebugBridge.Proofs.Monitor.Resting
import DebugBridge.Proofs.Monitor.Returned
import DebugBridge.Proofs.Monitor.Steps
import DebugBridge.Proofs.Monitor.TaskMap
import DebugBridge.Proofs.Monitor.Tasks
import DebugBridge.Proofs.Monitor.Trackers
import DebugBridge.Proofs.PortPool
import DebugBridge.Proofs.Registry.Clients
import DebugBridge.Proofs.Registry.Ports
import DebugBridge.Proofs.Registry.Replica
import DebugBridge.Proofs.Registry.Sweeps
import DebugBridge.Proofs.Shell.Output
import DebugBridge.Proofs.Shell.Properties
import DebugBridge.Proofs.Sync.Faithful
import DebugBridge.Proofs.Text.Utf8
import DebugBridge.Proofs.Wire.Framing
import DebugBridge.Registry.Operation
import DebugBridge.Registry.Replica
import DebugBridge.Settings.Store
import DebugBridge.Shell.Command
import DebugBridge.Shell.Lines
import DebugBridge.Shell.Properties
import DebugBridge.Shell.Words
import DebugBridge.Sync.Entry
import DebugBridge.Sync.Outcome
import DebugBridge.Sync.Session
import DebugBridge.Text.Decimal
import DebugBridge.Text.DecimalDigit
import DebugBridge.Text.Extending
import DebugBridge.Text.Lines
import DebugBridge.Text.Numeral
import DebugBridge.Text.Quoted
import DebugBridge.Text.Unprintable
import DebugBridge.Text.Utf8
import DebugBridge.Toml.Moment
import DebugBridge.Toml.Number
import DebugBridge.Toml.Printer
import DebugBridge.Toml.Reader
import DebugBridge.Toml.Strings
import DebugBridge.Toml.Table
import DebugBridge.Toml.Value
import DebugBridge.Wire.Address
import DebugBridge.Wire.Framing
import DebugBridge.Wire.Host
import DebugBridge.Wire.Listing
import DebugBridge.Wire.Script
import DebugBridge.Wire.Tracking
import DebugBridge.Proofs.Registry.Replay
import DebugBridge.Instrumentation.Calls
import DebugBridge.Proofs.Instrumentation.Steps
import DebugBridge.Proofs.Instrumentation.Calls
import DebugBridge.Instrumentation.Statuses
import DebugBridge.Proofs.Instrumentation.Statuses
import DebugBridge.Proofs.Instrumentation.Ended
import DebugBridge.Device.Operation
import DebugBridge.Proofs.Device.Refusal
import DebugBridge.Sync.FileAnswer
import DebugBridge.Proofs.Sync.Pulled
import DebugBridge.Events.Interleaving
import DebugBridge.Proofs.Events.Delivered
import DebugBridge.Proofs.Toml.Documents
import DebugBridge.Proofs.LocalFiles.Paths
import DebugBridge.Proofs.Settings.Document
import DebugBridge.Proofs.LocalFiles.Moving
import DebugBridge.Proofs.Settings.Store
import DebugBridge.Package.Calls
import DebugBridge.Proofs.Package.Install
import DebugBridge.Proofs.Shell.Words
import DebugBridge.Proofs.Package.Staged
import DebugBridge.Proofs.Package.StagedPath
import DebugBridge.Proofs.Package.Verdict
import DebugBridge.Proofs.Registry.Listed
import DebugBridge.Proofs.Monitor.Enlisting
import DebugBridge.Proofs.Bridge.ProcessList
import DebugBridge.Proofs.Monitor.Tracker
import DebugBridge.Proofs.Sync.Pushed
import DebugBridge.Proofs.Wire.Portions
import DebugBridge.Sync.DirectoryAnswer
import DebugBridge.Proofs.Sync.Listed
import DebugBridge.Proofs.Text.Pieces
import DebugBridge.Proofs.Wire.Listing
import DebugBridge.Proofs.Wire.Selection
import DebugBridge.Proofs.Emulator.Console
import DebugBridge.Proofs.Emulator.Dialogue
import DebugBridge.Device.Forwarding
import DebugBridge.Proofs.Device.Forwarding
import DebugBridge.Proofs.Wire.Answers
import DebugBridge.Proofs.Device.Unavailable
import DebugBridge.Duration.Parts
import DebugBridge.Logged
import DebugBridge.PortPool.Calls
import DebugBridge.Events.Registration
import DebugBridge.Proofs.Device.Emulators
import DebugBridge.Proofs.Events.Registration
import DebugBridge.Proofs.Monitor.Backoff
import DebugBridge.Proofs.PortPool.Calls
