import DebugBridge.Device.Handle

/-!
# Forwards between ports

What the handles of devices do with forwards between TCP ports, told without requests: there is one table
for all devices, in which a local port has at most one forward. The calls are values here, so that a run
of them can be compared with a run on the table.
-/

namespace DebugBridge

/-- A forward from a local port to a port on a device. -/
structure PortForward where
  /-- The device. -/
  serial : String
  /-- The local port. -/
  localPort : UInt16
  /-- The port on the device. -/
  remotePort : UInt16
  deriving Repr, DecidableEq, Inhabited

/-- The forward as the daemon tells it. -/
def PortForward.rule (f : PortForward) : ForwardRule :=
  ⟨f.serial, Host.tcp f.localPort, Host.tcp f.remotePort⟩

/-- A call on a handle that concerns forwards. -/
inductive ForwardCall
  | create (f : PortForward)
  | remove (serial : String) (localPort : UInt16)
  | list (serial : String)
  deriving Repr, DecidableEq, Inhabited

/-- What comes of a call. -/
inductive ForwardAnswer
  | settled (result : Except Error Unit)
  | listed (result : Except Error (List ForwardRule))

namespace ForwardCall

/-- The device of the handle. -/
def serial : ForwardCall → String
  | .create f => f.serial
  | .remove serial _ => serial
  | .list serial => serial

/-- What the daemon is asked for. -/
def request : ForwardCall → String
  | .create f =>
    s!"host-serial:{f.serial}:forward:{Host.tcp f.localPort};{Host.tcp f.remotePort}"
  | .remove serial localPort => s!"host-serial:{serial}:killforward:" ++ Host.tcp localPort
  | .list _ => "host:list-forward"

/-- The call, on the handle. -/
def perform {D S : Type} [Daemon D S] : ForwardCall → Desk D ForwardAnswer
  | .create f => .settled <$> (Device.mk f.serial).createForward f.localPort f.remotePort
  | .remove serial localPort => .settled <$> (Device.mk serial).removeForward localPort
  | .list serial => .listed <$> (Device.mk serial).forwards

end ForwardCall

/-- Forwards between ports, in the order in which they were made. -/
abbrev PortTable := List PortForward

namespace PortTable

/-- The call, on the table. -/
def perform (table : PortTable) : ForwardCall → ForwardAnswer × PortTable
  | .create f => (.settled (.ok ()), table.filter (·.localPort != f.localPort) ++ [f])
  | .remove serial localPort =>
    let isIt := fun (f : PortForward) => f.serial == serial && f.localPort == localPort
    if table.any isIt then (.settled (.ok ()), table.filter fun f => ! isIt f)
    else (.settled (.error (.rejected s!"listener '{Host.tcp localPort}' not found")), table)
  | .list serial => (.listed (.ok ((table.filter (·.serial == serial)).map PortForward.rule)), table)

/-- One call after the other. -/
def performAll (table : PortTable) : List ForwardCall → List ForwardAnswer × PortTable
  | [] => ([], table)
  | call :: calls =>
    let (answer, table) := table.perform call
    let (answers, table) := performAll table calls
    (answer :: answers, table)

/-- The table as the daemon tells it. -/
def text (table : PortTable) : String := Listing.writeForwards (table.map PortForward.rule)

end PortTable

end DebugBridge
