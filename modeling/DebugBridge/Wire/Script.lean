import DebugBridge.Wire.Connection

/-!
# Scripted daemons

The simplest daemon sends what it has to send whatever is sent to it. It keeps what was sent.
-/

namespace DebugBridge

/-- What a scripted daemon sends, and what it was told. -/
structure Script where
  /-- Where it is reached. -/
  address : String
  /-- What is received on a connection; nothing if connections are refused. -/
  supply : Option Stream
  /-- The bytes sent to it, over all connections. -/
  told : Bytes
  /-- Was a connection opened? -/
  reached : Bool
  deriving Repr, DecidableEq, Inhabited

namespace Script

/-- A daemon that sends some bytes. -/
def saying (address : String) (stream : Stream) : Script := ⟨address, some stream, [], false⟩

/-- A daemon that refuses connections. -/
def refusing (address : String) : Script := ⟨address, none, [], false⟩

instance : Daemon Script Ending where
  address d := d.address
  accept d := d.supply.map fun stream => ({ d with reached := true }, stream.ending, stream)
  receive d session b := ⟨{ d with told := d.told ++ b }, session, [], session⟩

end Script

end DebugBridge
