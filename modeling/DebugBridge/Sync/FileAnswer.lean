import DebugBridge.Sync.Session

/-!
# How the answer to a request for a file can go

Whatever bytes are received, they begin with some data packets, each complete and within the limit, and
then comes something that ends the answer: the packet that is meant to, a refusal, a packet that should
not be there, or the end of the bytes in the middle of a packet. `FileEnd` lists all that can come, with
the outcome that it stands for, and `Answers` puts the data packets in front of it.
-/

namespace DebugBridge.Sync

/-- The data packets of some chunks. -/
def dataPackets (chunks : List Bytes) : Bytes := chunks.flatMap (packetWith .data)

/-- The outcome if the bytes end within `size` bytes that are read at once. -/
def brokenOff (ending : Ending) (size : Nat) : Outcome :=
  match ending with
  | .closed => .ofError (.protocol s!"stream ended after fewer than {size} bytes")
  | .silent => .ofError (.timeout "reading from adb daemon")

/-- How a request for a file ends that got so far. -/
def endOf : Except Stall Outcome → Outcome
  | .ok outcome => outcome
  | .error (.failed e) => .ofError e
  | .error .waiting => .ofError (.timeout "reading from adb daemon")

/-- What is received after a request for a file. -/
def fileAnswer {D S : Type} [Daemon D S] (remote : String) (w : Wire D S) : Stream :=
  let r := Daemon.receive w.daemon w.session (pathRequest .recv remote)
  w.stream.extend r.answer r.ending

end DebugBridge.Sync
