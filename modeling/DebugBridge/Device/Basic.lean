import DebugBridge.Device.Serial
import DebugBridge.Dict

/-!
# Devices and what happens to them

A device has a state, properties, mount points, debuggable clients and, if it is an emulator, perhaps
the name of its virtual device. A `Snapshot` is all of this at one moment. An `Event` tells what
happened and carries the snapshot taken right after it.
-/

namespace DebugBridge

/-! ## States -/

/-- How far a device can be used. -/
inductive DeviceState
  /-- Fully usable. -/
  | online
  /-- Attached without answering, or not authorised. -/
  | offline
  | bootloader
  /-- Gone; only the last snapshot of a device has this state. -/
  | disconnected
  deriving Repr, DecidableEq, Inhabited

namespace DeviceState

/-- The state behind a token of the daemon's device list. Tokens that are neither a usable device nor
a bootloader count as offline. -/
def ofToken (token : String) : DeviceState :=
  if token = "device" then .online
  else if token = "bootloader" then .bootloader
  else .offline

/-- The daemon's token for a state. -/
def token : DeviceState → String
  | .online => "device"
  | .offline => "offline"
  | .bootloader => "bootloader"
  | .disconnected => "disconnected"

/-- The word for a state. -/
def text : DeviceState → String
  | .online => "online"
  | other => other.token

end DeviceState

/-! ## Snapshots -/

/-- A debuggable process on a device. -/
structure Client where
  /-- Its process number. -/
  pid : UInt32
  /-- The serial of the device it runs on. -/
  serial : String
  /-- The process name, once known. -/
  description : Option String
  /-- The local port where a debugger can attach. -/
  debuggerPort : Option UInt16
  deriving Repr, DecidableEq, Inhabited

/-- All that is known of a device at one moment. -/
structure Snapshot where
  /-- Its serial. -/
  serial : String
  /-- Its state. -/
  state : DeviceState
  /-- Its properties by name. -/
  properties : Dict String
  /-- Paths by the name of the mount point. -/
  mountPoints : Dict String
  /-- Its debuggable processes, in the order in which they were first seen. -/
  clients : List Client
  /-- The name of the virtual device, if an emulator has told it. -/
  avdName : Option String
  deriving DecidableEq, Inhabited

namespace Snapshot

/-- The property with the maker's name. -/
def makerProperty : String := "ro.product.manufacturer"

/-- The property with the model's name. -/
def modelProperty : String := "ro.product.model"

/-- The mount points asked for when a device comes online, in this order. -/
def mountPointNames : List String := ["ANDROID_DATA", "EXTERNAL_STORAGE", "ANDROID_ROOT"]

/-- Is the device usable? -/
def isOnline (s : Snapshot) : Bool := s.state == .online

/-- Is the device an emulator, by its serial? -/
def isEmulator (s : Snapshot) : Bool := Serial.isEmulator s.serial

/-- A name for people: the virtual device's, else maker and model, else the model, else the serial. -/
def displayName (s : Snapshot) : String :=
  match s.avdName with
  | some name => name
  | none =>
    match s.properties.get? makerProperty, s.properties.get? modelProperty with
    | some maker, some model => s!"{maker} {model}"
    | none, some model => model
    | _, none => s.serial

end Snapshot

/-! ## Events -/

/-- What changed on a device that stayed. -/
inductive Change
  | state
  | clientList
  | buildInfo
  deriving Repr, DecidableEq, Inhabited

/-- Something that happened to a device. -/
inductive Event
  | connected (device : Snapshot)
  | changed (device : Snapshot) (what : Change)
  /-- Carries the last snapshot, in state `disconnected`. -/
  | disconnected (device : Snapshot)
  deriving DecidableEq, Inhabited

/-- The snapshot that an event carries. -/
def Event.device : Event → Snapshot
  | .connected d => d
  | .changed d _ => d
  | .disconnected d => d

/-- The serial of the device that an event is about. -/
def Event.serial (e : Event) : String := e.device.serial

/-! ## Forwards -/

/-- A rule of the daemon's forward table. -/
structure ForwardRule where
  /-- The device that connections go to. -/
  serial : String
  /-- What is listened on, such as `tcp:8600`. -/
  localSpec : String
  /-- Where connections go on the device, such as `jdwp:1234`. -/
  remoteSpec : String
  deriving Repr, DecidableEq, Inhabited

end DebugBridge
