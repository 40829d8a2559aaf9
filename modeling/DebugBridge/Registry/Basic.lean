import DebugBridge.Device.Basic

/-!
# The registry of devices

The registry holds a record for each known device, by serial. It is changed by a full device list
(`applyList`), by `clear`, and by edits of one record. Each operation tells the events it publishes,
in the order in which they are published.

Each edit decides for itself whether it has changed the record, and an event is published if it says
so.
-/

namespace DebugBridge

/-- What the registry holds under a serial. -/
structure Record where
  /-- The device's state. -/
  state : DeviceState
  /-- Its properties. -/
  properties : Dict String
  /-- Its mount points. -/
  mountPoints : Dict String
  /-- Its virtual device's name. -/
  avdName : Option String
  /-- Its clients. -/
  clients : List Client
  deriving DecidableEq, Inhabited

namespace Record

/-- The record of a device that has just been listed. -/
def fresh (state : DeviceState) : Record := ⟨state, .empty, .empty, none, []⟩

/-- The snapshot of a record. -/
def snapshot (r : Record) (serial : String) : Snapshot :=
  ⟨serial, r.state, r.properties, r.mountPoints, r.clients, r.avdName⟩

@[simp] theorem serial_snapshot (r : Record) (serial : String) :
    (r.snapshot serial).serial = serial := rfl

end Record

/-- A line of the daemon's device list. -/
structure Listed where
  /-- The device. -/
  serial : String
  /-- Its state. -/
  state : DeviceState
  deriving Repr, DecidableEq, Inhabited

/-- The known devices. -/
structure Registry where
  /-- Their records by serial. -/
  records : Dict Record
  deriving DecidableEq, Inhabited

/-- What an operation on the registry brings about. -/
structure Update (α : Type) where
  /-- The registry afterwards. -/
  registry : Registry
  /-- The events published, in order. -/
  events : List Event
  /-- The answer to the caller. -/
  result : α

namespace Registry

/-- No devices. -/
def empty : Registry := ⟨.empty⟩

/-! ## Device lists -/

/-- The last event of a device. -/
def farewell (serial : String) (r : Record) : Event :=
  .disconnected { r.snapshot serial with state := .disconnected }

/-- A pass over a device list: the records so far, the events of new devices and those of changed
states. -/
structure Pass where
  /-- The records so far. -/
  records : Dict Record
  /-- Events of new devices. -/
  arrivals : List Event
  /-- Events of changed states. -/
  changes : List Event

/-- Takes in one line of the list. -/
def Pass.line (p : Pass) (l : Listed) : Pass :=
  match p.records.get? l.serial with
  | none =>
    let r := Record.fresh l.state
    { p with
      records := p.records.insert l.serial r
      arrivals := p.arrivals ++ [.connected (r.snapshot l.serial)] }
  | some r =>
    if r.state = l.state then p
    else
      let r := { r with state := l.state }
      { p with
        records := p.records.insert l.serial r
        changes := p.changes ++ [.changed (r.snapshot l.serial) .state] }

/-- Brings the registry in step with a full device list. Devices not listed are dropped first, in the
order of their serials; then new devices are told of; last come the changes of state. The caller gets the
events that are published. -/
def applyList (reg : Registry) (list : List Listed) : Update (List Event) :=
  let isListed := fun serial => list.any (·.serial == serial)
  let gone := reg.records.filterKeys fun serial => ! isListed serial
  let stay := reg.records.filterKeys isListed
  let pass := list.foldl Pass.line ⟨stay, [], []⟩
  let events := gone.entries.map (fun e => farewell e.1 e.2) ++ pass.arrivals ++ pass.changes
  { registry := ⟨pass.records⟩
    events
    result := events }

/-- Drops every device, in the order of the serials. The caller gets the events that are published. -/
def clear (reg : Registry) : Update (List Event) :=
  let events := reg.records.entries.map fun e => farewell e.1 e.2
  { registry := empty
    events
    result := events }

/-! ## Edits of one record -/

/-- What an edit makes of a record. The edit itself tells whether it has changed anything. -/
structure Edit (α : Type) where
  /-- The record afterwards. -/
  record : Record
  /-- Does the edit report a change? -/
  changed : Bool
  /-- The answer to the caller. -/
  answer : α

/-- Edits the record under a serial, and publishes an event if the edit reports a change; `none` if
the serial is unknown. -/
def edit (reg : Registry) (serial : String) (what : Change) (f : Record → Edit α) :
    Update (Option α) :=
  match reg.records.get? serial with
  | none => ⟨reg, [], none⟩
  | some r =>
    let e := f r
    { registry := ⟨reg.records.insert serial e.record⟩
      events := if e.changed then [.changed (e.record.snapshot serial) what] else []
      result := some e.answer }

/-- Puts a client in the place of the first one with its process number. -/
def replaceClient (c : Client) : List Client → List Client
  | [] => []
  | x :: rest => if x.pid = c.pid then c :: rest else x :: replaceClient c rest

/-- Adds or replaces a client. There is no change if the client is there as it is. -/
def clientAdded (c : Client) (r : Record) : Edit Unit :=
  match r.clients.find? (·.pid == c.pid) with
  | some old =>
    if old = c then ⟨r, false, ()⟩
    else ⟨{ r with clients := replaceClient c r.clients }, true, ()⟩
  | none => ⟨{ r with clients := r.clients ++ [c] }, true, ()⟩

/-- Removes the first client with a process number. -/
def clientRemoved (pid : UInt32) (r : Record) : Edit (Option Client) :=
  match r.clients.find? (·.pid == pid) with
  | some c => ⟨{ r with clients := r.clients.eraseP (·.pid == pid) }, true, some c⟩
  | none => ⟨r, false, none⟩

/-- Keeps the clients that pass a test. There is a change if any is removed. -/
def clientsKept (p : Client → Bool) (r : Record) : Edit (List Client) :=
  let (kept, removed) := r.clients.partition p
  ⟨{ r with clients := kept }, ! removed.isEmpty, removed⟩

/-- Sets a part of the record, unless it is there as it is. -/
def setUnless (same : Record → Bool) (set : Record → Record) (r : Record) : Edit Unit :=
  if same r then ⟨r, false, ()⟩ else ⟨set r, true, ()⟩

/-- Sets the properties. -/
def propertiesSet (properties : Dict String) : Record → Edit Unit :=
  setUnless (·.properties == properties) fun r => { r with properties }

/-- Sets the path of a mount point. -/
def mountPointSet (name path : String) : Record → Edit Unit :=
  setUnless (·.mountPoints.get? name == some path) fun r =>
    { r with mountPoints := r.mountPoints.insert name path }

/-- Sets the virtual device's name. -/
def avdNameSet (name : String) : Record → Edit Unit :=
  setUnless (·.avdName == some name) fun r => { r with avdName := some name }

/-- Adds or replaces a client; tells whether its device is known. -/
def addClient (reg : Registry) (c : Client) : Update Bool :=
  let u := reg.edit c.serial .clientList (clientAdded c)
  { u with result := u.result.isSome }

/-- Removes the client with a process number, and tells which it was. -/
def removeClient (reg : Registry) (serial : String) (pid : UInt32) : Update (Option Client) :=
  let u := reg.edit serial .clientList (clientRemoved pid)
  { u with result := u.result.join }

/-- Keeps the clients whose process number is given, and tells which were removed. -/
def retainClients (reg : Registry) (serial : String) (pids : List UInt32) : Update (List Client) :=
  let u := reg.edit serial .clientList (clientsKept fun c => pids.contains c.pid)
  { u with result := u.result.getD [] }

/-- Removes all clients of a device, and tells which they were. -/
def clearClients (reg : Registry) (serial : String) : Update (List Client) :=
  let u := reg.edit serial .clientList (clientsKept fun _ => false)
  { u with result := u.result.getD [] }

/-- Sets the properties; tells whether the device is known. -/
def setProperties (reg : Registry) (serial : String) (properties : Dict String) : Update Bool :=
  let u := reg.edit serial .buildInfo (propertiesSet properties)
  { u with result := u.result.isSome }

/-- Sets the path of a mount point; tells whether the device is known. -/
def setMountPoint (reg : Registry) (serial name path : String) : Update Bool :=
  let u := reg.edit serial .buildInfo (mountPointSet name path)
  { u with result := u.result.isSome }

/-- Sets the virtual device's name; tells whether the device is known. -/
def setAvdName (reg : Registry) (serial name : String) : Update Bool :=
  let u := reg.edit serial .buildInfo (avdNameSet name)
  { u with result := u.result.isSome }

/-! ## Readers -/

/-- The snapshots of all devices, in the order of their serials. -/
def devices (reg : Registry) : List Snapshot := reg.records.entries.map fun e => e.2.snapshot e.1

/-- The snapshot of a device. -/
def device? (reg : Registry) (serial : String) : Option Snapshot :=
  (reg.records.get? serial).map (·.snapshot serial)

/-- The state of a device. -/
def state? (reg : Registry) (serial : String) : Option DeviceState :=
  (reg.records.get? serial).map (·.state)

/-- Is a device known and usable? -/
def isOnline (reg : Registry) (serial : String) : Bool := reg.state? serial == some .online

/-- The clients of a device; none if it is unknown. -/
def clients (reg : Registry) (serial : String) : List Client :=
  ((reg.records.get? serial).map (·.clients)).getD []

/-- The number of devices. -/
def size (reg : Registry) : Nat := reg.records.size

/-- Are there no devices? -/
def isEmpty (reg : Registry) : Bool := reg.records.isEmpty

end Registry

end DebugBridge
