import DebugBridge.MemoryDaemon.Store
import DebugBridge.Sync.Packet

/-!
# The sync service of a daemon in memory

The service answers packet by packet from a store of files. A push takes several packets; the file is
stored when its last packet has come. A packet of an unknown kind ends the session.
-/

namespace DebugBridge

/-- What the service is in the middle of. -/
inductive SyncPhase
  /-- Waits for a request. -/
  | idle
  /-- Takes in a file. -/
  | receiving (path : String) (mode : UInt32) (data : Bytes)
  /-- Has ended. -/
  | ended
  deriving Repr, DecidableEq, Inhabited

/-- What the service makes of a packet. -/
structure SyncReply where
  /-- The store afterwards. -/
  store : RemoteStore
  /-- What it is in the middle of afterwards. -/
  phase : SyncPhase
  /-- What it sends. -/
  answer : Bytes

namespace SyncService

open Sync

/-- The path and permissions that a push request names; they stand around its last comma. -/
def pushTarget (target : String) : String × UInt32 :=
  match Text.cutAtLast ',' target.toList with
  | some (path, mode) =>
    (String.ofList path, (Text.word? (String.ofList mode)).getD pushedMode)
  | none => (target, pushedMode)

/-- A file as data packets. -/
def fileAnswer (data : Bytes) : Bytes :=
  (Bytes.pieces dataLimit data).flatMap (packetWith .data) ++ packet .done 0

/-- What is told about a path. -/
def statAnswer (store : RemoteStore) (path : String) : Bytes :=
  let (mode, size, mtime) := store.stat path
  packet .stat mode ++ Bytes.ofWord size ++ Bytes.ofWord mtime

/-- A directory entry. -/
def entry (name : String) (mode size mtime : UInt32) : Bytes :=
  let body := Bytes.ofString name
  packet .dent mode ++ Bytes.ofWord size ++ Bytes.ofWord mtime ++
    Bytes.ofWord (UInt32.ofNat body.length) ++ body

/-- What is told about a directory: itself, the one above it, and the files right below it. -/
def listAnswer (store : RemoteStore) (path : String) : Bytes :=
  entry "." RemoteStore.directoryMode RemoteStore.directorySize 0 ++
    entry ".." RemoteStore.directoryMode RemoteStore.directorySize 0 ++
    ((store.children path).flatMap fun (name, c) => entry name c.mode c.size c.mtime) ++
    packet .done 0 ++ List.replicate 12 0

/-- The length of the packet at the front, if that can be told yet. -/
def unitSize (phase : SyncPhase) (pending : Bytes) : Option Nat :=
  if pending.length < 8 then none
  else
    let arg := (wordAt pending 0).toNat
    match phase with
    | .idle => some (if isA .quit pending then 8 else 8 + arg)
    | .receiving _ _ _ => some (if isA .data pending then 8 + arg else 8)
    | .ended => none

/-- Answers a request. -/
def request (store : RemoteStore) (header : Bytes) (path : String) : SyncReply :=
  if isA .send header then
    let (target, mode) := pushTarget path
    ⟨store, .receiving target mode [], []⟩
  else if isA .recv header then
    match store.get? path with
    | some c => ⟨store, .idle, fileAnswer c.data⟩
    | none => ⟨store, .idle, packetWith .fail (Bytes.ofString "No such file or directory")⟩
  else if isA .stat header then ⟨store, .idle, statAnswer store path⟩
  else if isA .list header then ⟨store, .idle, listAnswer store path⟩
  else ⟨store, .ended, []⟩

/-- Takes in a packet of a push. -/
def pushed (store : RemoteStore) (failure : Option String) (path : String) (mode : UInt32)
    (data : Bytes) (header body : Bytes) : SyncReply :=
  if isA .data header then ⟨store, .receiving path mode (data ++ body), []⟩
  else if isA .done header then
    match failure with
    | some message => ⟨store, .idle, packetWith .fail (Bytes.ofString message)⟩
    | none =>
      ⟨store.insert path ⟨data, RemoteFile.regularKind ||| mode, wordAt header 0⟩, .idle,
        packet .okay 0⟩
  else ⟨store, .ended, []⟩

/-- Takes in the packet of which all has come. -/
def packetArrived (store : RemoteStore) (failure : Option String) (phase : SyncPhase)
    (whole : Bytes) : SyncReply :=
  let header := whole.take 8
  let body := whole.drop 8
  match phase with
  | .idle => request store header (Utf8.lossy body)
  | .receiving path mode data => pushed store failure path mode data header body
  | .ended => ⟨store, .ended, []⟩

end SyncService

end DebugBridge
