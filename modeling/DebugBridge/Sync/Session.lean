import DebugBridge.LocalFiles
import DebugBridge.Sync.Outcome
import DebugBridge.Sync.Packet
import DebugBridge.Wire.Connection

/-!
# Sync sessions

A session is a connection switched to the sync service. Each operation sends its request and reads
the daemon's packets up to the one that ends the answer, so that the next operation starts at a
packet. Pushes and pulls end with an `Outcome`; they report the bytes moved so far after each data
packet.
-/

namespace DebugBridge.Sync

variable {D S : Type}

/-! ## Reading answers -/

/-- What came of receiving a file: the data packets in order, and how the answer ended. -/
structure Received where
  /-- The bodies of the data packets. -/
  chunks : List Bytes
  /-- How it ended. -/
  result : Except Stall Outcome

/-- Reads data packets up to the packet that ends them. -/
def receive (s : Stream) (chunks : List Bytes) : Received × Stream :=
  match _h : (Read.exactly 8).run s with
  | (.error e, s') => (⟨chunks, .error e⟩, s')
  | (.ok header, s') =>
    let arg := wordAt header 0
    if isA .data header then
      if dataLimit < arg.toNat then
        (⟨chunks, .ok (.because .bufferOverrun s!"chunk of {arg.toNat} bytes")⟩, s')
      else match _h' : (Read.exactly arg.toNat).run s' with
        | (.error e, s'') => (⟨chunks, .error e⟩, s'')
        | (.ok chunk, s'') => receive s'' (chunks ++ [chunk])
    else if isA .done header then (⟨chunks, .ok .success⟩, s')
    else if isA .fail header then
      match (failMessage arg).run s' with
      | (.ok message, s'') => (⟨chunks, .ok (.because .remoteError message)⟩, s'')
      | (.error e, s'') => (⟨chunks, .error e⟩, s'')
    else
      (⟨chunks, .ok (.because .protocolError ("unexpected sync packet " ++ shownLetters header))⟩,
        s')
termination_by s.size
decreasing_by
  have h1 := (Read.size_exactly _h).2
  have h2 := (Read.size_exactly _h').2
  omega

/-- Reads the answer to a push. -/
def pushAnswer : Read Outcome := do
  let header ← Read.exactly 8
  if isA .okay header then pure .success
  else if isA .fail header then
    let message ← failMessage (wordAt header 0)
    pure (.because .remoteError message)
  else pure (.because .protocolError ("unexpected sync reply " ++ shownLetters header))

/-- The last component of a remote path, slashes at its end apart. -/
def remoteName (path : String) : String :=
  let trimmed := (path.toList.reverse.dropWhile (· == '/')).reverse
  String.ofList ((trimmed.splitOn '/').getLast?.getD [])

/-- Reads the answer to a question about a path; mode zero means that nothing is there. -/
def statAnswer (path : String) : Read (Option RemoteFile) := do
  let reply ← Read.exactly 16
  if isA .stat reply then
    let mode := wordAt reply 0
    if mode = 0 then pure none
    else pure (some ⟨remoteName path, mode, wordAt reply 1, wordAt reply 2⟩)
  else Read.fail (.protocol ("expected STAT reply, got " ++ shownLetters reply))

/-- Reads directory entries up to the packet that ends them; the directory itself and the one above
it are left out. -/
def entries (s : Stream) (found : List RemoteFile) : Except Stall (List RemoteFile) × Stream :=
  match _h : (Read.exactly 20).run s with
  | (.error e, s') => (.error e, s')
  | (.ok header, s') =>
    if isA .done header then (.ok found, s')
    else if isA .dent header then
      let n := (wordAt header 3).toNat
      if pathLimit < n then
        (.error (.failed (.protocol
          s!"LIST entry name of {n} bytes exceeds the {pathLimit} byte limit")), s')
      else match _h' : (Read.exactly n).run s' with
        | (.error e, s'') => (.error e, s'')
        | (.ok body, s'') =>
          let name := Utf8.lossy body
          if name = "." ∨ name = ".." then entries s'' found
          else entries s''
            (found ++ [⟨name, wordAt header 0, wordAt header 1, wordAt header 2⟩])
    else (.error (.failed (.protocol ("unexpected LIST packet " ++ shownLetters header))), s')
termination_by s.size
decreasing_by
  all_goals
    have h1 := (Read.size_exactly _h).2
    have h2 := (Read.size_exactly _h').2
    omega

/-- Reads the answer to a request for a directory. -/
def listAnswer : Read (List RemoteFile) := fun s => entries s []

/-! ## Operations -/

/-- A report on the progress of a transfer. -/
inductive Progress
  /-- The number of bytes to expect. -/
  | start (total : Nat)
  /-- The number of bytes moved so far. -/
  | moved (total : Nat)
  deriving Repr, DecidableEq

/-- The reports for some chunks, `before` bytes having been moved before them. -/
def progressOf (before : Nat) : List Bytes → List Progress
  | [] => []
  | chunk :: rest => .moved (before + chunk.length) :: progressOf (before + chunk.length) rest

/-- What a push or pull brings about. -/
structure Transfer where
  /-- How it ended. -/
  outcome : Outcome
  /-- The reports on its progress. -/
  progress : List Progress
  /-- The local files afterwards. -/
  files : LocalFiles

variable [Daemon D S]

/-- Switches a connection to the sync service of a device. Any refusal means that the service is not
available. -/
def enter (serial : String) : Call D S Unit :=
  tryCatch
    (do
      Call.select serial
      Call.request "sync:")
    fun e =>
      if e.isRejection then throw (.syncUnavailable serial e.message) else throw e

/-- Sends chunks as data packets. -/
def sendChunks : List Bytes → Call D S Unit
  | [] => pure ()
  | chunk :: rest => do
    Call.send (packet .data (UInt32.ofNat chunk.length))
    Call.send chunk
    sendChunks rest

/-- The path and the permissions of a file to be pushed. -/
def pushTarget (remote : String) : String := remote ++ "," ++ toString pushedMode.toNat

/-- Sends a file in given chunks and reads the answer. -/
def sendFile (remote : String) (chunks : List Bytes) (mtime : UInt32) : Call D S Outcome := do
  Call.send (pathRequest .send (pushTarget remote))
  sendChunks chunks
  Call.send (packet .done mtime)
  Call.within "reading from adb daemon" pushAnswer

/-- A time in seconds as the word that travels, held within its range. -/
def clampTime (seconds : Int) : UInt32 := UInt32.ofNat (min seconds.toNat (UInt32.size - 1))

/-- Pushes a local file to a remote path, its contents being read in chunks as `cut` says. -/
def pushCut (cut : Bytes → List Bytes) (fs : LocalFiles) (path remote : String) :
    StateM (Wire D S) Transfer :=
  if pathLimit < (Bytes.ofString remote).length then
    pure ⟨.because .remotePathLength remote, [], fs⟩
  else match fs.info path with
    | .error _ => pure ⟨.because .noLocalFile path, [], fs⟩
    | .ok info =>
      if info.isDirectory then pure ⟨.because .localIsDirectory path, [], fs⟩
      else match fs.read path with
        | .error e => pure ⟨.because .fileReadError e.message, [], fs⟩
        | .ok content => do
          let chunks := cut content
          let result ← (sendFile remote chunks (clampTime info.mtime)).run
          let outcome := match result with
            | .ok outcome => outcome
            | .error e => .ofError e
          pure ⟨outcome, .start info.size :: progressOf 0 chunks, fs⟩

/-- Pushes a local file to a remote path. Each read returns as much as it may. -/
def push (fs : LocalFiles) (path remote : String) : StateM (Wire D S) Transfer :=
  pushCut (Bytes.pieces dataLimit) fs path remote

/-- Asks about a remote path. -/
def stat (remote : String) : Call D S (Option RemoteFile) := do
  Call.send (pathRequest .stat remote)
  Call.within "reading from adb daemon" (statAnswer remote)

/-- Lists a remote directory. -/
def list (remote : String) : Call D S (List RemoteFile) := do
  Call.send (pathRequest .list remote)
  Call.within "reading from adb daemon" listAnswer

/-- Asks for a remote file and receives it. -/
def fetch (remote : String) : StateM (Wire D S) (List Bytes × Outcome) := do
  let _ ← (Call.send (pathRequest .recv remote)).run
  let w ← get
  let (received, s) := receive w.stream []
  set { w with stream := s }
  let outcome := match received.result with
    | .ok outcome => outcome
    | .error (.failed e) => .ofError e
    | .error .waiting => .ofError (.timeout "reading from adb daemon")
  pure (received.chunks, outcome)

/-- Pulls a remote file to a local path; if that fails after the local file was made, it is removed. -/
def pull (fs : LocalFiles) (remote path : String) : StateM (Wire D S) Transfer :=
  if pathLimit < (Bytes.ofString remote).length then
    pure ⟨.because .remotePathLength remote, [], fs⟩
  else do
    match ← (stat remote).run with
    | .error e => pure ⟨.ofError e, [], fs⟩
    | .ok none => pure ⟨.because .noRemoteObject remote, [], fs⟩
    | .ok (some found) =>
      match fs.write path [] with
      | .error e => pure ⟨.because .fileWriteError e.message, [], fs⟩
      | .ok created =>
        let (chunks, outcome) ← fetch remote
        let written := (created.write path chunks.flatten).toOption.getD created
        let files := if outcome.isOk then written else (written.remove path).toOption.getD written
        pure ⟨outcome, .start found.size.toNat :: progressOf 0 chunks, files⟩

/-- Leaves the sync service. -/
def quit : StateM (Wire D S) Unit := do
  let _ ← (Call.send (packet .quit 0)).run
  pure ()

end DebugBridge.Sync
