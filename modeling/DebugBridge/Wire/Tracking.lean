import DebugBridge.Wire.Connection
import DebugBridge.Wire.Listing

/-!
# Tracking streams

On a tracking stream the daemon sends a full listing whenever something changes. There is no limit on
the time between two listings.
-/

namespace DebugBridge

namespace Read

/-- Waits for the next device list. -/
def deviceList : Read (List Listed) := do
  let payload ← frame
  pure (Listing.devices (Utf8.lossy payload))

/-- Waits for the next list of process numbers. -/
def pidList : Read (List UInt32) := do
  let payload ← frame
  pure (Listing.pids (Utf8.lossy payload))

end Read

namespace Tracking

variable {D S : Type} [Daemon D S]

/-- Asks for the stream of device lists. -/
def devices : Call D S Unit := Call.request "host:track-devices"

/-- Asks for the stream of the debuggable processes on a device. -/
def processes (serial : String) : Call D S Unit := do
  Call.select serial
  Call.request "track-jdwp"

/-- The listings on a stream, at most `n`, up to the first that fails or never comes. -/
def listings (r : Read α) (n : Nat) (s : Stream) : List (Except Stall α) × Stream :=
  match n with
  | 0 => ([], s)
  | n + 1 =>
    match r.run s with
    | (.ok a, s') => let (rest, last) := listings r n s'; (.ok a :: rest, last)
    | (.error e, s') => ([.error e], s')

end Tracking

end DebugBridge
