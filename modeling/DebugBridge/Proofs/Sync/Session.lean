import DebugBridge.Proofs.LocalFiles
import DebugBridge.Proofs.Sync.Answers
import DebugBridge.Proofs.Sync.Service
import DebugBridge.Sync.Files

/-!
# One operation on a session

Between two operations a session is at rest (`resting`): the daemon waits for a request, nothing is
pending there, and nothing is left to be read here. Each exchange of packets begins and ends at rest.

Results: `stat_resting`, `list_resting`, `sendFile_resting`, `fetch_resting`.
-/

namespace DebugBridge.Sync

variable {d : MemoryDaemon} {remote : String}

/-- A session at rest. -/
def resting (d : MemoryDaemon) : Wire MemoryDaemon MemorySession :=
  ⟨d, ⟨.sync .idle, []⟩, .ofBytes [] .silent⟩

/-! ## Questions -/

/-- The words that are told about a path are those of what stands there. -/
theorem stat_eq_object? (store : RemoteStore) (path : String) :
    store.stat path =
      match (object? store path).map (·.info path) with
      | some f => (f.mode, f.size, f.mtime)
      | none => (0, 0, 0) := by
  rw [RemoteStore.stat, object?]
  cases store.get? path with
  | some c => rfl
  | none =>
    have hiff : (store.entries.any fun e =>
        (RemoteStore.directoryLead path).isPrefixOf e.1.toList) = true ↔
          ∃ e ∈ store.entries, RemoteStore.directoryLead path <+: e.1.toList := by
      simp only [List.any_eq_true, List.isPrefixOf_iff_prefix]
    by_cases hdir : ∃ e ∈ store.entries, RemoteStore.directoryLead path <+: e.1.toList
    · simp only [if_pos hdir, if_pos (hiff.2 hdir)]
      rfl
    · simp only [if_neg hdir, if_neg (mt hiff.1 hdir)]
      rfl

theorem info_mode_ne_zero {store : RemoteStore} {path : String} {found : RemoteObject}
    (hmode : ∀ c, store.get? path = some c → c.mode ≠ 0) (h : object? store path = some found) :
    (found.info path).mode ≠ 0 := by
  rw [object?] at h
  cases hget : store.get? path with
  | some c =>
    rw [hget] at h
    cases h
    exact hmode c hget
  | none =>
    simp only [hget] at h
    split at h
    · cases h
      show RemoteStore.directoryMode ≠ 0
      decide
    · cases h

theorem remoteName_info (path : String) (found : RemoteObject) :
    (found.info path).name = remoteName path := by
  cases found <;> rfl

theorem statAnswer_object? (store : RemoteStore) (path : String)
    (hmode : ∀ c, store.get? path = some c → c.mode ≠ 0) (ending : Ending) :
    (statAnswer path).run (.ofBytes (SyncService.statAnswer store path) ending) =
      (.ok ((object? store path).map (·.info path)), .ofBytes [] ending) := by
  rw [← List.append_nil (SyncService.statAnswer store path), SyncService.statAnswer, statAnswer_run,
    stat_eq_object?]
  cases hfound : object? store path with
  | none => rfl
  | some found =>
    have hne := info_mode_ne_zero hmode hfound
    simp only [Option.map_some, if_neg hne]
    rw [← remoteName_info path found]

theorem stat_resting (hpath : (Bytes.ofString remote).length < UInt32.size)
    (hmode : ∀ c, d.store.get? remote = some c → c.mode ≠ 0) :
    (stat remote).run (resting d) =
      (.ok ((object? d.store remote).map (·.info remote)), resting d) := by
  have hsend := Call.run_send (w := resting d) (MemoryDaemon.receive_stat d hpath)
  rw [stat, run_bind_ok hsend]
  exact Call.run_within _ (statAnswer_object? d.store remote hmode .silent)

theorem list_resting (hpath : (Bytes.ofString remote).length < UInt32.size)
    (hnames : ∀ child ∈ d.store.children remote, (Bytes.ofString child.1).length ≤ pathLimit) :
    (list remote).run (resting d) = (.ok (children d.store remote), resting d) := by
  have hsend := Call.run_send (w := resting d) (MemoryDaemon.receive_list d hpath)
  have hread : (listAnswer.run (.ofBytes (SyncService.listAnswer d.store remote) .silent)) =
      (.ok (children d.store remote), .ofBytes [] .silent) := by
    rw [← List.append_nil (SyncService.listAnswer d.store remote), listAnswer_run hnames]
  rw [list, run_bind_ok hsend]
  exact Call.run_within _ hread

/-! ## Pushes -/

/-- A session in the middle of a push. -/
def pushing (d : MemoryDaemon) (path : String) (mode : UInt32) (data : Bytes) :
    Wire MemoryDaemon MemorySession :=
  ⟨d, ⟨.sync (.receiving path mode data), []⟩, .ofBytes [] .silent⟩

theorem sendChunks_pushing {path : String} {mode : UInt32} {chunks : List Bytes}
    (h : ∀ chunk ∈ chunks, chunk ≠ [] ∧ chunk.length ≤ dataLimit) (data : Bytes) :
    (sendChunks chunks).run (pushing d path mode data) =
      (.ok (), pushing d path mode (data ++ chunks.flatten)) := by
  induction chunks generalizing data with
  | nil =>
    rw [List.flatten_nil, List.append_nil]
    rfl
  | cons chunk chunks ih =>
    obtain ⟨hne, hlength⟩ := h chunk List.mem_cons_self
    have hpos : 0 < (UInt32.ofNat chunk.length).toNat := by
      rw [toNat_ofNat_length hlength]
      exact List.length_pos_iff.2 hne
    let half : Wire MemoryDaemon MemorySession :=
      ⟨d, ⟨.sync (.receiving path mode data), packet .data (UInt32.ofNat chunk.length)⟩,
        .ofBytes [] .silent⟩
    have hheader : (Call.send (packet .data (UInt32.ofNat chunk.length))).run
        (pushing d path mode data) = (.ok (), half) :=
      Call.run_send (MemoryDaemon.receive_data_header d hpos)
    have hbody : (Call.send chunk).run half = (.ok (), pushing d path mode (data ++ chunk)) :=
      Call.run_send (MemoryDaemon.receive_data_body d hlength)
    rw [sendChunks, run_bind_ok hheader, run_bind_ok hbody,
      ih fun c hc => h c (List.mem_cons_of_mem _ hc), List.flatten_cons, List.append_assoc]

/-- What a file that is sent comes to, and the store after it. -/
def sent (d : MemoryDaemon) (remote : String) (data : Bytes) (mtime : UInt32) :
    Outcome × RemoteStore :=
  match d.pushFailure with
  | some message => (.because .remoteError message, d.store)
  | none =>
    (.success, d.store.insert remote ⟨data, RemoteFile.regularKind ||| pushedMode, mtime⟩)

theorem sendFile_resting (hpath : (Bytes.ofString remote).length ≤ pathLimit)
    (hfailure : ∀ message ∈ d.pushFailure, (Bytes.ofString message).length ≤ dataLimit)
    (data : Bytes) (mtime : UInt32) :
    (sendFile remote (Bytes.pieces dataLimit data) mtime).run (resting d) =
      (.ok (sent d remote data mtime).1,
        resting { d with store := (sent d remote data mtime).2 }) := by
  have hlimit : 0 < dataLimit := by decide
  have hsend : (Call.send (pathRequest .send (pushTarget remote))).run (resting d) =
      (.ok (), pushing d remote pushedMode []) :=
    Call.run_send (MemoryDaemon.receive_send d hpath)
  have hchunks : (sendChunks (Bytes.pieces dataLimit data)).run (pushing d remote pushedMode []) =
      (.ok (), pushing d remote pushedMode data) := by
    rw [sendChunks_pushing fun chunk hc => Bytes.mem_pieces hlimit hc, List.nil_append,
      Bytes.flatten_pieces hlimit]
  let r := MemoryDaemon.pushEnd d.store d.pushFailure remote pushedMode data mtime
  have hdone : (Call.send (packet .done mtime)).run (pushing d remote pushedMode data) =
      (.ok (), ⟨{ d with store := r.1 }, ⟨.sync .idle, []⟩, .ofBytes r.2 .silent⟩) :=
    Call.run_send (MemoryDaemon.receive_done d mtime)
  have hanswer : pushAnswer.run (.ofBytes r.2 .silent) =
      (.ok (sent d remote data mtime).1, .ofBytes [] .silent) := by
    rw [← List.append_nil r.2]
    cases hfail : d.pushFailure with
    | none =>
      simp only [r, MemoryDaemon.pushEnd, sent, hfail]
      exact pushAnswer_okay
    | some message =>
      simp only [r, MemoryDaemon.pushEnd, sent, hfail]
      exact pushAnswer_fail (hfailure message hfail)
  have hstore : (sent d remote data mtime).2 = r.1 := by
    simp only [r, MemoryDaemon.pushEnd, sent]
    cases d.pushFailure <;> rfl
  rw [sendFile, run_bind_ok hsend, run_bind_ok hchunks, run_bind_ok hdone, hstore]
  exact Call.run_within _ hanswer

/-! ## Pulls -/

/-- A remote object is fetched: the contents of a file, and nothing of a directory. -/
def RemoteObject.fetched : RemoteObject → List Bytes × Outcome
  | .file c => (Bytes.pieces dataLimit c.data, .success)
  | .directory => ([], .because .remoteError "No such file or directory")

theorem fetch_resting (hpath : (Bytes.ofString remote).length < UInt32.size) {found : RemoteObject}
    (hfound : object? d.store remote = some found) :
    fetch remote (resting d) = (found.fetched, resting d) := by
  let asked : Wire MemoryDaemon MemorySession :=
    ⟨d, ⟨.sync .idle, []⟩, .ofBytes (MemoryDaemon.fetched d.store remote) .silent⟩
  have hsend : (Call.send (pathRequest .recv remote)).run (resting d) = (.ok (), asked) :=
    Call.run_send (MemoryDaemon.receive_recv d hpath)
  have hstate : (get : StateM (Wire MemoryDaemon MemorySession) _) asked = (asked, asked) := rfl
  have hreceive : receive asked.stream [] =
      (⟨found.fetched.1, .ok found.fetched.2⟩, .ofBytes [] .silent) := by
    show receive (.ofBytes (MemoryDaemon.fetched d.store remote) .silent) [] = _
    rw [← List.append_nil (MemoryDaemon.fetched _ _), MemoryDaemon.fetched]
    rw [object?] at hfound
    cases hget : d.store.get? remote with
    | some c =>
      rw [hget] at hfound
      cases hfound
      exact receive_fileAnswer c.data
    | none =>
      simp only [hget] at hfound
      split at hfound
      · cases hfound
        exact receive_fail (by decide) []
      · cases hfound
  rw [fetch, stateM_bind, hsend, stateM_bind, hstate]
  simp only [hreceive]
  rfl

end DebugBridge.Sync
