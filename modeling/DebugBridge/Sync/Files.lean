import DebugBridge.MemoryDaemon.Basic
import DebugBridge.Sync.Session

/-!
# Transfers without packets

What the operations of a sync session come to, told without packets: files stand on the far side
under their paths, files stand on the near side, and each operation answers and changes them at once
(`FileWorld.perform`). Beside it stands the session itself, on a daemon in memory
(`LiveSession.perform`).

Between two operations the near side may change by other hands, and the daemon may be told to let
pushes fail.
-/

namespace DebugBridge.Sync

/-- What happens on a session. -/
inductive Action
  | push (path remote : String)
  | pull (remote path : String)
  | stat (remote : String)
  | list (remote : String)
  /-- The daemon is told the message with which pushes fail, or to let them succeed. -/
  | failPushes (message : Option String)
  /-- The local files become others. -/
  | edit (files : LocalFiles)

/-- What an action answers. -/
inductive Answer
  | transfer (outcome : Outcome) (progress : List Progress)
  | stat (found : Except Error (Option RemoteFile))
  | list (found : Except Error (List RemoteFile))
  | nothing

/-- Can the action be told in packets? The length of a path that is asked about travels in a word, and
a message with which pushes fail in a packet of limited size. -/
def Action.Fits : Action → Prop
  | .push _ _ | .pull _ _ | .edit _ | .failPushes none => True
  | .stat remote | .list remote => (Bytes.ofString remote).length < UInt32.size
  | .failPushes (some message) => (Bytes.ofString message).length ≤ dataLimit

instance : DecidablePred Action.Fits
  | .push _ _ | .pull _ _ | .edit _ | .failPushes none => .isTrue trivial
  | .stat remote | .list remote =>
    inferInstanceAs (Decidable ((Bytes.ofString remote).length < UInt32.size))
  | .failPushes (some message) =>
    inferInstanceAs (Decidable ((Bytes.ofString message).length ≤ dataLimit))

/-! ## The files -/

/-- What stands at a remote path. -/
inductive RemoteObject
  | file (c : RemoteContent)
  | directory

/-- What stands at a remote path; a directory does if a file lies below it. -/
def object? (store : RemoteStore) (path : String) : Option RemoteObject :=
  match store.get? path with
  | some c => some (.file c)
  | none =>
    if ∃ e ∈ store.entries, RemoteStore.directoryLead path <+: e.1.toList then some .directory
    else none

/-- What is told about a remote object. -/
def RemoteObject.info (path : String) : RemoteObject → RemoteFile
  | .file c => ⟨remoteName path, c.mode, c.size, c.mtime⟩
  | .directory => ⟨remoteName path, RemoteStore.directoryMode, RemoteStore.directorySize, 0⟩

/-- The contents of a remote object. -/
def RemoteObject.data : RemoteObject → Bytes
  | .file c => c.data
  | .directory => []

/-- A directory entry as it is listed; the directory itself and the one above it are left out. -/
def listed? (name : String) (mode size mtime : UInt32) : Option RemoteFile :=
  if name = "." ∨ name = ".." then none else some ⟨name, mode, size, mtime⟩

/-- The files right below a remote directory, as they are listed. -/
def children (store : RemoteStore) (path : String) : List RemoteFile :=
  (store.children path).filterMap fun (name, c) => listed? name c.mode c.size c.mtime

/-- The files on both sides. -/
structure FileWorld where
  /-- The files on the far side. -/
  store : RemoteStore
  /-- The message with which pushes fail, if they do. -/
  pushFailure : Option String
  /-- The files on the near side. -/
  files : LocalFiles

namespace FileWorld

/-- A transfer that is refused before it begins. -/
def refused (w : FileWorld) (code : TransferCode) (message : String) : Answer × FileWorld :=
  (.transfer (.because code message) [], w)

/-- Pushes a local file. -/
def push (w : FileWorld) (path remote : String) : Answer × FileWorld :=
  if pathLimit < (Bytes.ofString remote).length then w.refused .remotePathLength remote
  else match w.files.info path with
    | .error _ => w.refused .noLocalFile path
    | .ok info =>
      if info.isDirectory then w.refused .localIsDirectory path
      else match w.files.read path with
        | .error e => w.refused .fileReadError e.message
        | .ok data =>
          let progress := .start info.size :: progressOf 0 (Bytes.pieces dataLimit data)
          match w.pushFailure with
          | some message => (.transfer (.because .remoteError message) progress, w)
          | none =>
            let pushed := ⟨data, RemoteFile.regularKind ||| pushedMode, clampTime info.mtime⟩
            (.transfer .success progress, { w with store := w.store.insert remote pushed })

/-- Pulls a remote file. A directory has no contents, and the local file that was made for them is
removed. -/
def pull (w : FileWorld) (remote path : String) : Answer × FileWorld :=
  if pathLimit < (Bytes.ofString remote).length then w.refused .remotePathLength remote
  else match object? w.store remote with
    | none => w.refused .noRemoteObject remote
    | some found =>
      match w.files.write path found.data with
      | .error e => w.refused .fileWriteError e.message
      | .ok files =>
        let start := .start (found.info remote).size.toNat
        match found with
        | .file c =>
          (.transfer .success (start :: progressOf 0 (Bytes.pieces dataLimit c.data)),
            { w with files })
        | .directory =>
          (.transfer (.because .remoteError "No such file or directory") [start],
            { w with files := (files.remove path).toOption.getD files })

/-- Does an action. -/
def perform (w : FileWorld) : Action → Answer × FileWorld
  | .push path remote => w.push path remote
  | .pull remote path => w.pull remote path
  | .stat remote => (.stat (.ok ((object? w.store remote).map (·.info remote))), w)
  | .list remote => (.list (.ok (children w.store remote)), w)
  | .failPushes message => (.nothing, { w with pushFailure := message })
  | .edit files => (.nothing, { w with files })

end FileWorld

/-! ## The session -/

/-- A session on a daemon in memory, and the local files beside it. -/
structure LiveSession where
  /-- The connection, with the daemon at its far end. -/
  wire : Wire MemoryDaemon MemorySession
  /-- The local files. -/
  files : LocalFiles

namespace LiveSession

/-- A transfer on the session. -/
def transfer (s : LiveSession)
    (work : LocalFiles → StateM (Wire MemoryDaemon MemorySession) Transfer) :
    Answer × LiveSession :=
  let (t, wire) := work s.files s.wire
  (.transfer t.outcome t.progress, ⟨wire, t.files⟩)

/-- Does an action. -/
def perform (s : LiveSession) : Action → Answer × LiveSession
  | .push path remote => s.transfer fun files => Sync.push files path remote
  | .pull remote path => s.transfer fun files => Sync.pull files remote path
  | .stat remote =>
    let (found, wire) := (Sync.stat remote).run s.wire
    (.stat found, { s with wire })
  | .list remote =>
    let (found, wire) := (Sync.list remote).run s.wire
    (.list found, { s with wire })
  | .failPushes message =>
    (.nothing,
      { s with wire := { s.wire with daemon := { s.wire.daemon with pushFailure := message } } })
  | .edit files => (.nothing, { s with files })

end LiveSession

/-! ## Runs -/

/-- Does actions one after the other, each by `act`. -/
def performAll (act : σ → Action → Answer × σ) (s : σ) : List Action → List Answer × σ
  | [] => ([], s)
  | a :: rest =>
    let (answer, s) := act s a
    let (answers, s) := performAll act s rest
    (answer :: answers, s)

theorem performAll_cons (act : σ → Action → Answer × σ) (s : σ) (a : Action) (rest : List Action) :
    performAll act s (a :: rest) =
      ((act s a).1 :: (performAll act (act s a).2 rest).1, (performAll act (act s a).2 rest).2) :=
  rfl

end DebugBridge.Sync
