import DebugBridge.Settings.Basic
import DebugBridge.Toml.Printer
import DebugBridge.Toml.Reader

/-!
# Settings as TOML documents

Settings are written as three sections, `daemon`, `timeouts` and `monitor`; a field that is not set is
left out. They are read from a document that may leave out anything and may hold more. A group may
also be given as an array of its fields in order. If any field is of the wrong kind or out of range,
nothing is read.
-/

namespace DebugBridge.Settings

/-! ## Writing -/

/-- A number that a document can hold. -/
def writable? (n : UInt64) : Option Scalar :=
  if (n.toNat : Int) ≤ Int64.maxValue.toInt then some (.integer n.toNat) else none

/-- The section about the daemon. -/
def daemonSection (s : DaemonSettings) : Toml.Section :=
  ⟨"daemon", [("host", .string s.host), ("port", .integer s.port.toNat)]⟩

/-- The section about waits. -/
def timeoutSection? (s : TimeoutSettings) : Option Toml.Section := do
  pure ⟨"timeouts",
    [("connect_ms", ← writable? s.connect), ("io_ms", ← writable? s.io),
      ("shell_inactivity_ms", ← writable? s.shellInactivity),
      ("install_ms", ← writable? s.install)]⟩

/-- The section about the monitor. -/
def monitorSection? (s : MonitorSettings) : Option Toml.Section := do
  let attempts := match s.maxReconnectAttempts with
    | some n => [("max_reconnect_attempts", Scalar.integer n.toNat)]
    | none => []
  pure ⟨"monitor",
    [("track_clients", .boolean s.trackClients),
      ("query_device_info", .boolean s.queryDeviceInfo),
      ("query_avd_name", .boolean s.queryAvdName),
      ("jdwp_handshake", .boolean s.jdwpHandshake),
      ("debug_port_base", .integer s.debugPortBase.toNat),
      ("initial_backoff_ms", ← writable? s.initialBackoff),
      ("max_backoff_ms", ← writable? s.maxBackoff)] ++ attempts⟩

/-- The sections of a document, unless a number is too large for one. -/
def sections? (s : Settings) : Option (List Toml.Section) := do
  pure [daemonSection s.daemon, ← timeoutSection? s.timeouts, ← monitorSection? s.monitor]

/-! ## Reading -/

/-- The fields of a group in order, each `none` if it is left out. A moment holds no field. -/
def fields? (names : List String) : Toml → Option (List (Option Toml))
  | .table entries => some (names.map fun name => (entries.find? (·.1 == name)).map (·.2))
  | .array elements => some ((List.range names.length).map fun i => elements[i]?)
  | .moment _ => some (names.map fun _ => none)
  | _ => none

/-- A field, or what stands for it if it is left out. -/
def fieldOr (read : Toml → Option α) (standard : α) : Option Toml → Option α
  | some v => read v
  | none => some standard

/-- A text. -/
def text? : Toml → Option String
  | .scalar (.string s) => some s
  | _ => none

/-- A truth value. -/
def flag? : Toml → Option Bool
  | .scalar (.boolean b) => some b
  | _ => none

/-- A number from zero up to a bound. -/
def below? (bound : Nat) : Toml → Option Nat
  | .scalar (.integer n) => if 0 ≤ n ∧ n < bound then some n.toNat else none
  | _ => none

/-- A 16-bit number. -/
def port? (v : Toml) : Option UInt16 := (below? UInt16.size v).map UInt16.ofNat

/-- A 32-bit number. -/
def word? (v : Toml) : Option UInt32 := (below? UInt32.size v).map UInt32.ofNat

/-- A number of milliseconds. -/
def millis? (v : Toml) : Option UInt64 := (below? UInt64.size v).map UInt64.ofNat

/-- The settings of the daemon. -/
def daemon? (standard : DaemonSettings) (v : Toml) : Option DaemonSettings := do
  match ← fields? ["host", "port"] v with
  | [host, port] => pure ⟨← fieldOr text? standard.host host, ← fieldOr port? standard.port port⟩
  | _ => none

/-- The settings of waits. -/
def timeouts? (standard : TimeoutSettings) (v : Toml) : Option TimeoutSettings := do
  match ← fields? ["connect_ms", "io_ms", "shell_inactivity_ms", "install_ms"] v with
  | [connect, io, shell, install] =>
    pure ⟨← fieldOr millis? standard.connect connect, ← fieldOr millis? standard.io io,
      ← fieldOr millis? standard.shellInactivity shell,
      ← fieldOr millis? standard.install install⟩
  | _ => none

/-- The settings of the monitor. -/
def monitor? (standard : MonitorSettings) (v : Toml) : Option MonitorSettings := do
  match ← fields? ["track_clients", "query_device_info", "query_avd_name", "jdwp_handshake",
      "debug_port_base", "initial_backoff_ms", "max_backoff_ms", "max_reconnect_attempts"] v with
  | [track, info, avd, jdwp, base, first, longest, attempts] =>
    pure ⟨← fieldOr flag? standard.trackClients track,
      ← fieldOr flag? standard.queryDeviceInfo info, ← fieldOr flag? standard.queryAvdName avd,
      ← fieldOr flag? standard.jdwpHandshake jdwp, ← fieldOr port? standard.debugPortBase base,
      ← fieldOr millis? standard.initialBackoff first,
      ← fieldOr millis? standard.maxBackoff longest,
      ← fieldOr (fun v => (word? v).map some) standard.maxReconnectAttempts attempts⟩
  | _ => none

/-- The settings of a document. -/
def ofToml? (v : Toml) : Option Settings := do
  match ← fields? ["daemon", "timeouts", "monitor"] v with
  | [daemon, timeouts, monitor] =>
    pure ⟨← fieldOr (daemon? standard.daemon) standard.daemon daemon,
      ← fieldOr (timeouts? standard.timeouts) standard.timeouts timeouts,
      ← fieldOr (monitor? standard.monitor) standard.monitor monitor⟩
  | _ => none

end DebugBridge.Settings
