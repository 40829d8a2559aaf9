import DebugBridge.Duration
import DebugBridge.Error
import DebugBridge.Text.Numeral
import DebugBridge.Wire.Address

/-!
# Settings

What can be set: where the daemon listens, how long to wait for it, and what the monitor does. Spans of
time are whole milliseconds.
-/

namespace DebugBridge

/-- Where the daemon listens. -/
structure DaemonSettings where
  /-- An address, or the name `localhost`. -/
  host : String
  /-- The port. -/
  port : UInt16
  deriving Repr, DecidableEq, Inhabited

/-- How long to wait, in milliseconds. -/
structure TimeoutSettings where
  /-- For a connection to the daemon. -/
  connect : UInt64
  /-- For each answer of the daemon. -/
  io : UInt64
  /-- For output of a shell command; zero stands for any time. -/
  shellInactivity : UInt64
  /-- For output of the package manager. -/
  install : UInt64
  deriving Repr, DecidableEq, Inhabited

/-- What the monitor does. -/
structure MonitorSettings where
  /-- Does it track the debuggable processes of devices? -/
  trackClients : Bool
  /-- Does it ask a new device for properties and mount points? -/
  queryDeviceInfo : Bool
  /-- Does it ask emulators for the name of their virtual device? -/
  queryAvdName : Bool
  /-- Must a process answer a greeting to count as a client? -/
  jdwpHandshake : Bool
  /-- The lowest local port for debuggers. -/
  debugPortBase : UInt16
  /-- The wait after a first failure, in milliseconds. -/
  initialBackoff : UInt64
  /-- The longest wait after a failure, in milliseconds. -/
  maxBackoff : UInt64
  /-- After how many failures in a row it retries for the last time; without end if not given. -/
  maxReconnectAttempts : Option UInt32
  deriving Repr, DecidableEq, Inhabited

/-- All settings. -/
structure Settings where
  /-- Where the daemon listens. -/
  daemon : DaemonSettings
  /-- How long to wait. -/
  timeouts : TimeoutSettings
  /-- What the monitor does. -/
  monitor : MonitorSettings
  deriving Repr, DecidableEq, Inhabited

/-- What stands for a setting that is not given. -/
def Settings.standard : Settings where
  daemon := ⟨"127.0.0.1", 5037⟩
  timeouts := ⟨5000, 5000, 5000, 120000⟩
  monitor := ⟨true, true, true, true, 8600, 1000, 30000, none⟩

/-- Where and how to reach the daemon. -/
structure Endpoint where
  /-- Where it listens. -/
  address : SocketAddress
  /-- How long to wait for a connection. -/
  connectLimit : Duration
  /-- How long to wait for an answer. -/
  ioLimit : Duration
  deriving Repr, DecidableEq

/-- The endpoint if nothing is set. -/
def Endpoint.standard : Endpoint :=
  ⟨⟨.loopback, 5037⟩, .ofMillis 5000, .ofMillis 5000⟩

/-- A span of so many milliseconds. -/
def Duration.ofMillis64 (ms : UInt64) : Duration := .ofMillis ms.toNat

namespace Settings

/-- The address that a host names. The name `localhost` may be in letters of either case. -/
def hostAddress? (host : String) : Option IpAddress :=
  if host.toList.map Char.toLower = "localhost".toList then some IpAddress.loopback
  else IpAddress.ofText? host

/-- Where and how to reach the daemon. -/
def endpoint (s : Settings) : Except Error Endpoint :=
  match hostAddress? s.daemon.host with
  | some address =>
    .ok ⟨⟨address, s.daemon.port⟩, .ofMillis64 s.timeouts.connect, .ofMillis64 s.timeouts.io⟩
  | none => .error (.config s!"Invalid daemon host '{s.daemon.host}': invalid IP address syntax")

/-- How long a shell command may be silent. -/
def shellInactivity (s : Settings) : Duration := .ofMillis64 s.timeouts.shellInactivity

/-- How long the package manager may be silent. -/
def installLimit (s : Settings) : Duration := .ofMillis64 s.timeouts.install

/-- The port that an environment variable names, if it names one above zero. -/
def portOverride? (portVariable : Option String) : Option UInt16 :=
  portVariable.bind fun text => (Text.port? (Text.trimmed text)).filter (0 < ·)

/-- The settings with the daemon's port replaced by the one that the environment names. -/
def withEnvironment (s : Settings) (portVariable : Option String) : Settings :=
  match portOverride? portVariable with
  | some port => { s with daemon := { s.daemon with port } }
  | none => s

end Settings

namespace MonitorSettings

/-- The wait after a first failure. -/
def firstWait (m : MonitorSettings) : Duration := .ofMillis64 m.initialBackoff

/-- The longest wait after a failure. -/
def longestWait (m : MonitorSettings) : Duration := .ofMillis64 m.maxBackoff

end MonitorSettings

end DebugBridge
