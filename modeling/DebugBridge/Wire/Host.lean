import DebugBridge.Wire.Connection
import DebugBridge.Wire.Listing

/-!
# Short conversations

Conversations of a few requests: the daemon's version, reboots, forwards, and the handshake that tells
a debuggable process.
-/

namespace DebugBridge.Host

variable {D S : Type} [Daemon D S]

/-! ## The daemon -/

/-- The daemon's protocol version. -/
def version : Net D Nat := Net.briefly do
  Call.request "host:version"
  let payload ← Call.frame
  lengthPrefix? payload

/-- Restarts a device, perhaps into a named mode. -/
def reboot (serial : String) (mode : Option String) : Net D Unit := Net.briefly do
  Call.select serial
  Call.request ("reboot:" ++ mode.getD "")

/-! ## Forwards -/

/-- Forwards a local end to a remote end on a device. -/
def createForwardSpec (serial localSpec remoteSpec : String) : Net D Unit :=
  Net.briefly (Call.request s!"host-serial:{serial}:forward:{localSpec};{remoteSpec}")

/-- The end of a forward at a TCP port. -/
def tcp (port : UInt16) : String := s!"tcp:{port.toNat}"

/-- Forwards a local TCP port to a port on a device. -/
def createForward (serial : String) (localPort remotePort : UInt16) : Net D Unit :=
  createForwardSpec serial (tcp localPort) (tcp remotePort)

/-- Removes the forward at a local TCP port. -/
def removeForward (serial : String) (localPort : UInt16) : Net D Unit :=
  Net.briefly (Call.request (s!"host-serial:{serial}:killforward:" ++ tcp localPort))

/-- The forwards of all devices. -/
def forwards : Net D (List ForwardRule) := Net.briefly do
  Call.request "host:list-forward"
  let payload ← Call.frame
  pure (Listing.forwards (Utf8.lossy payload))

/-! ## Processes -/

/-- The bytes that a debugger and a process greet each other with. -/
def greeting : Bytes := Bytes.ofString "JDWP-Handshake"

/-- Does a process on a device answer a debugger's greeting? -/
def handshake (serial : String) (pid : UInt32) : Net D Bool := Net.briefly do
  Call.select serial
  Call.request s!"jdwp:{pid.toNat}"
  Call.send greeting
  let reply ← Call.exactly greeting.length
  pure (reply == greeting)

end DebugBridge.Host
