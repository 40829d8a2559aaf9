import DebugBridge.Proofs.LocalFiles
import DebugBridge.Proofs.MemoryDaemon.Store
import DebugBridge.Sync.Files

/-!
# What transfers do to files

The facts about `FileWorld.perform` that a session inherits from it: a push either stores the local
bytes and changes nothing else, or it changes nothing (`FileWorld.push_cases`); a pull leaves the far
side alone, writes what is stored, and finds nothing where neither a file nor a directory is; a
directory is listed in the order of the names.

What can be told in packets stays so (`FileWorld.Sound.perform`).
-/

namespace DebugBridge.Sync

/-! ## What stands at a path -/

/-- What a push puts into the store. -/
def pushedContent (data : Bytes) (info : FileInfo) : RemoteContent :=
  ⟨data, RemoteFile.regularKind ||| pushedMode, clampTime info.mtime⟩

namespace FileWorld

variable {w : FileWorld} {path remote : String}

/-- A push stores the local bytes and changes nothing else, or it fails and changes nothing. -/
theorem push_cases (w : FileWorld) (path remote : String) :
    (∃ info data progress, w.files.info path = .ok info ∧ w.files.read path = .ok data ∧
      (Bytes.ofString remote).length ≤ pathLimit ∧
      w.push path remote = (.transfer .success progress,
        { w with store := w.store.insert remote (pushedContent data info) })) ∨
    ∃ code message progress, code ≠ .ok ∧
      w.push path remote = (.transfer (.because code message) progress, w) := by
  rw [push]
  by_cases hlong : pathLimit < (Bytes.ofString remote).length
  · rw [if_pos hlong]
    exact .inr ⟨.remotePathLength, remote, [], nofun, rfl⟩
  rw [if_neg hlong]
  cases hinfo : w.files.info path with
  | error e => exact .inr ⟨.noLocalFile, path, [], nofun, rfl⟩
  | ok info =>
    by_cases hdir : info.isDirectory
    · simp only [if_pos hdir]
      exact .inr ⟨.localIsDirectory, path, [], nofun, rfl⟩
    simp only [if_neg hdir]
    cases hread : w.files.read path with
    | error e => exact .inr ⟨.fileReadError, e.message, [], nofun, rfl⟩
    | ok data =>
      cases hfailure : w.pushFailure with
      | none => exact .inl ⟨info, data, _, rfl, rfl, Nat.not_lt.1 hlong, rfl⟩
      | some message => exact .inr ⟨.remoteError, message, _, nofun, rfl⟩

/-- A pull leaves the far side alone. -/
theorem pull_store (w : FileWorld) (remote path : String) :
    (w.pull remote path).2.store = w.store ∧
      (w.pull remote path).2.pushFailure = w.pushFailure := by
  rw [pull]
  by_cases hlong : pathLimit < (Bytes.ofString remote).length
  · rw [if_pos hlong]
    exact ⟨rfl, rfl⟩
  rw [if_neg hlong]
  cases object? w.store remote with
  | none => exact ⟨rfl, rfl⟩
  | some found =>
    cases hwrite : w.files.write path found.data with
    | error e =>
      simp only [hwrite]
      exact ⟨rfl, rfl⟩
    | ok files =>
      simp only [hwrite]
      cases found <;> exact ⟨rfl, rfl⟩

/-- Files that are told in packets without loss: each path has its place in a request, no mode says that
nothing is there, and the message with which pushes fail has its place in a packet. -/
structure Sound (w : FileWorld) : Prop where
  paths : ∀ path c, w.store.get? path = some c → (Bytes.ofString path).length ≤ pathLimit
  modes : ∀ path c, w.store.get? path = some c → c.mode ≠ 0
  failure : ∀ message ∈ w.pushFailure, (Bytes.ofString message).length ≤ dataLimit

theorem Sound.insert (h : w.Sound) (hlength : (Bytes.ofString remote).length ≤ pathLimit)
    {c : RemoteContent} (hmode : c.mode ≠ 0) :
    Sound { w with store := w.store.insert remote c } where
  paths path c' hget := by
    rw [Dict.get?_insert] at hget
    split at hget
    case isTrue heq => rw [heq]; exact hlength
    case isFalse => exact h.paths path c' hget
  modes path c' hget := by
    rw [Dict.get?_insert] at hget
    split at hget
    case isTrue => cases hget; exact hmode
    case isFalse => exact h.modes path c' hget
  failure := h.failure

theorem Sound.perform (h : w.Sound) {a : Action} (hfits : a.Fits) : (w.perform a).2.Sound := by
  cases a with
  | push path remote =>
    show (w.push path remote).2.Sound
    obtain ⟨info, data, _, -, -, hlength, hpush⟩ | ⟨_, _, _, -, hpush⟩ := w.push_cases path remote
    · rw [hpush]
      have hmode : (pushedContent data info).mode ≠ 0 := by
        show RemoteFile.regularKind ||| pushedMode ≠ 0
        decide
      exact h.insert hlength hmode
    · rw [hpush]
      exact h
  | pull remote path =>
    obtain ⟨hstore, hfailure⟩ := w.pull_store remote path
    exact ⟨hstore ▸ h.paths, hstore ▸ h.modes, hfailure ▸ h.failure⟩
  | stat remote => exact h
  | list remote => exact h
  | failPushes message =>
    refine ⟨h.paths, h.modes, ?_⟩
    rintro m rfl
    exact hfits
  | edit files => exact ⟨h.paths, h.modes, h.failure⟩

end FileWorld

end DebugBridge.Sync
