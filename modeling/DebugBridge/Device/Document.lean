import DebugBridge.Device.Basic
import DebugBridge.Json.Value

/-!
# Devices as JSON documents

A record is written as an object with a member for each field, a state as a word. A record is read
from such an object, whose other members do not matter, or from an array of its fields in order. No
field may be given twice. Fields that may be missing may be left out of an object.
-/

namespace DebugBridge.Document

/-! ## Fields -/

/-- The text of a string. -/
def text? : Json → Option String
  | .string text => text
  | _ => none

/-- A number below a bound. -/
def below? (bound : Nat) : Json → Option Nat
  | .natural n => if n < bound then some n else none
  | _ => none

/-- A value, or null for none. -/
def optional? (f : Json → Option α) : Json → Option (Option α)
  | .null => some none
  | v => (f v).map some

/-- All elements of an array. -/
def list? (f : Json → Option α) : Json → Option (List α)
  | .array elements => elements.mapM f
  | _ => none

/-- The texts of an object by name; of two members with one name the later counts. -/
def dict? : Json → Option (Dict String)
  | .object members =>
    (members.mapM fun (m : Option String × Json) => do pure (← m.1, ← text? m.2)).map Dict.ofList
  | _ => none

/-- The fields of a record in order, each `none` if it is left out. -/
def fields? (names : List String) : Json → Option (List (Option Json))
  | .array elements =>
    if elements.length = names.length then some (elements.map some) else none
  | .object members => do
    let named ← members.mapM fun (m : Option String × Json) => m.1.map fun name => (name, m.2)
    names.mapM fun name =>
      match named.filter fun m => m.1 == name with
      | [] => some none
      | [m] => some (some m.2)
      | _ => none
  | _ => none

/-- A field that may be left out. -/
def field? (f : Json → Option α) : Option Json → Option (Option α)
  | none => some none
  | some v => optional? f v

/-! ## States -/

/-- The word for a state. -/
def ofState (s : DeviceState) : Json := .str s.text

/-- The state behind a word. -/
def stateWord? (word : String) : Option DeviceState :=
  [DeviceState.online, .offline, .bootloader, .disconnected].find? (·.text == word)

/-- A state: a word, or an object with the word for its only member, which is null. -/
def state? : Json → Option DeviceState
  | .string (some word) => stateWord? word
  | .object [(some word, .null)] => stateWord? word
  | _ => none

/-! ## Records -/

/-- The number of a port. -/
def ofPort (port : UInt16) : Json := .natural port.toNat

/-- The object for texts by name. -/
def ofDict (d : Dict String) : Json := .ofMembers (d.entries.map fun (k, v) => (k, .str v))

/-- The names of a client's fields. -/
def clientFields : List String := ["pid", "device_serial", "description", "debugger_port"]

/-- Writes a client. -/
def ofClient (c : Client) : Json :=
  .ofMembers (clientFields.zip
    [.natural c.pid.toNat, .str c.serial, .ofOption .str c.description,
      .ofOption ofPort c.debuggerPort])

/-- Reads a client. -/
def client? (v : Json) : Option Client := do
  match ← fields? clientFields v with
  | [some pid, some serial, description, port] =>
    let pid ← below? UInt32.size pid
    let port ← field? (below? UInt16.size) port
    pure ⟨UInt32.ofNat pid, ← text? serial, ← field? text? description, port.map UInt16.ofNat⟩
  | _ => none

/-- The names of a snapshot's fields. -/
def snapshotFields : List String :=
  ["serial", "state", "properties", "mount_points", "clients", "avd_name"]

/-- Writes a snapshot. -/
def ofSnapshot (s : Snapshot) : Json :=
  .ofMembers (snapshotFields.zip
    [.str s.serial, ofState s.state, ofDict s.properties, ofDict s.mountPoints,
      .array (s.clients.map ofClient), .ofOption .str s.avdName])

/-- Reads a snapshot. -/
def snapshot? (v : Json) : Option Snapshot := do
  match ← fields? snapshotFields v with
  | [some serial, some state, some properties, some mountPoints, some clients, avdName] =>
    pure ⟨← text? serial, ← state? state, ← dict? properties, ← dict? mountPoints,
      ← list? client? clients, ← field? text? avdName⟩
  | _ => none

/-- The names of a forward rule's fields. -/
def ruleFields : List String := ["serial", "local", "remote"]

/-- Writes a forward rule. -/
def ofRule (r : ForwardRule) : Json :=
  .ofMembers (ruleFields.zip [.str r.serial, .str r.localSpec, .str r.remoteSpec])

/-- Reads a forward rule. -/
def rule? (v : Json) : Option ForwardRule := do
  match ← fields? ruleFields v with
  | [some serial, some localSpec, some remoteSpec] =>
    pure ⟨← text? serial, ← text? localSpec, ← text? remoteSpec⟩
  | _ => none

end DebugBridge.Document
