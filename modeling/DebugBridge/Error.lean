import DebugBridge.Duration

/-!
# Errors

What can go wrong, by cause. `Error.message` is the only place where an error is put into words.
-/

namespace DebugBridge

/-- How a file transfer ended. -/
inductive TransferCode
  | ok
  /-- The daemon reported a failure. -/
  | remoteError
  /-- The daemon sent something outside the transfer framing. -/
  | protocolError
  | noLocalFile
  | localIsDirectory
  | noRemoteObject
  | remotePathLength
  /-- A data packet was longer than allowed. -/
  | bufferOverrun
  | fileReadError
  | fileWriteError
  | timeout
  | transferError
  deriving Repr, DecidableEq, Inhabited

/-- The words for a transfer code. -/
def TransferCode.text : TransferCode → String
  | .ok => "ok"
  | .remoteError => "remote error"
  | .protocolError => "protocol error"
  | .noLocalFile => "local file not found"
  | .localIsDirectory => "local path is a directory"
  | .noRemoteObject => "remote object not found"
  | .remotePathLength => "remote path too long"
  | .bufferOverrun => "buffer overrun"
  | .fileReadError => "local read error"
  | .fileWriteError => "local write error"
  | .timeout => "timeout"
  | .transferError => "transfer error"

/-- Why an operation failed. -/
inductive Error
  | io (detail : String)
  | connectionRefused (address : String)
  | timeout (operation : String)
  | protocol (detail : String)
  /-- The daemon answered `FAIL`. -/
  | rejected (reason : String)
  | deviceNotFound (serial : String)
  | deviceOffline (serial : String)
  /-- A shell command was silent for longer than allowed. -/
  | shellUnresponsive (command : String) (limit : Duration)
  | syncUnavailable (serial : String) (reason : String)
  | syncFailed (code : TransferCode) (detail : String)
  | installFailed (reason : String)
  | config (detail : String)
  deriving Repr, DecidableEq, Inhabited

namespace Error

/-- An error in words. -/
def message : Error → String
  | .io detail => s!"IO error: {detail}"
  | .connectionRefused address => s!"Could not connect to adb daemon at {address}"
  | .timeout operation => s!"Timed out while {operation}"
  | .protocol detail => s!"adb protocol error: {detail}"
  | .rejected reason => s!"adb daemon rejected the request: {reason}"
  | .deviceNotFound serial => s!"Device not found: {serial}"
  | .deviceOffline serial => s!"Device is offline: {serial}"
  | .shellUnresponsive command limit =>
    s!"Shell command '{command}' produced no output for " ++ limit.text
  | .syncUnavailable serial reason => s!"Sync service unavailable on {serial}: {reason}"
  | .syncFailed code detail => "Sync failed (" ++ code.text ++ s!"): {detail}"
  | .installFailed reason => s!"Installation failed: {reason}"
  | .config detail => s!"Configuration error: {detail}"

/-- May the same operation succeed if it is tried again? -/
def isRetryable : Error → Bool
  | .connectionRefused _ | .timeout _ | .deviceOffline _ | .shellUnresponsive _ _ => true
  | _ => false

/-- Did the daemon itself refuse the request? -/
def isRejection : Error → Bool
  | .rejected _ | .deviceNotFound _ | .deviceOffline _ | .syncUnavailable _ _ => true
  | _ => false

end Error

end DebugBridge
