import DebugBridge.Proofs.MemoryDaemon.Request
import DebugBridge.Sync.Session

/-!
# The sync service, packet by packet

The daemon works on the bytes of a connection as soon as a whole packet has come. Each packet that a
session sends leaves nothing behind that was not worked on: a question is answered at once, and of a
push nothing is heard before its last packet.

Results: `receive_stat`, `receive_list`, `receive_recv`, `receive_send`, `receive_data_body`,
`receive_done`.
-/

namespace DebugBridge.MemoryDaemon

open Sync

variable {d : MemoryDaemon} {phase : SyncPhase} {path : String} {mode : UInt32} {data : Bytes}

/-! ## Whole packets -/

/-- A packet that has come to its last byte is worked on. -/
theorem receive_whole (d : MemoryDaemon) {pending b whole : Bytes} {r : SyncReply}
    (hwhole : pending ++ b = whole) (hne : whole ≠ [])
    (hsize : SyncService.unitSize phase whole = some whole.length)
    (hr : SyncService.packetArrived d.store d.pushFailure phase whole = r) :
    Daemon.receive d ⟨.sync phase, pending⟩ b =
      ⟨{ d with store := r.store }, ⟨.ofPhase r.phase, []⟩, r.answer,
        ending ⟨.ofPhase r.phase, []⟩⟩ := by
  have hunit : nextUnit ⟨.sync phase, whole⟩ = some (whole, []) := by
    simp only [nextUnit, hsize, Nat.lt_irrefl, if_false, List.take_length, List.drop_length]
  exact receive_unit d hwhole hne hunit (by rw [take, hr])

/-- A packet of which something is missing waits. -/
theorem receive_part (d : MemoryDaemon) {b : Bytes} {n : Nat}
    (hsize : SyncService.unitSize phase b = some n) (hn : b.length < n) :
    Daemon.receive d ⟨.sync phase, []⟩ b = ⟨d, ⟨.sync phase, b⟩, [], .silent⟩ := by
  have hunit : nextUnit ⟨.sync phase, b⟩ = none := by
    simp only [nextUnit, hsize, if_pos hn]
  have hwork : d.workOff ⟨.sync phase, b⟩ [] = (d, ⟨.sync phase, b⟩, []) := by
    rw [workOff, hunit]
  show (⟨_, _, _, _⟩ : Reaction _ _) = _
  rw [List.nil_append, hwork]
  rfl

/-! ## Requests about a path -/

theorem length_packetWith (id : PacketId) (body : Bytes) :
    (packetWith id body).length = 8 + body.length := by
  rw [packetWith, List.length_append, length_packet]

theorem length_pathRequest (id : PacketId) (path : String) :
    (pathRequest id path).length = 8 + (Bytes.ofString path).length :=
  length_packetWith id (Bytes.ofString path)

/-- As much as its word tells is taken of a request, and the word counts a path of `2 ^ 32` bytes as one
without bytes. -/
theorem unitSize_request {id : PacketId} (hid : id ≠ .quit) (path : String) (more : Bytes) :
    SyncService.unitSize .idle (pathRequest id path ++ more) =
      some (8 + (Bytes.ofString path).length % UInt32.size) := by
  have hword : (UInt32.ofNat (Bytes.ofString path).length).toNat =
      (Bytes.ofString path).length % UInt32.size := UInt32.toNat_ofNat'
  have hlong : ¬ (pathRequest id path ++ more).length < 8 := by
    rw [List.length_append, length_pathRequest]
    omega
  rw [SyncService.unitSize, if_neg hlong]
  simp only [pathRequest, packetWith, List.append_assoc, isA_packet, wordAt_packet, hword,
    decide_eq_false hid, if_false, Bool.false_eq_true]

/-- A request whose length fits its word is taken as a whole. -/
theorem unitSize_request_of_lt {id : PacketId} (hid : id ≠ .quit)
    (hpath : (Bytes.ofString path).length < UInt32.size) (more : Bytes) :
    SyncService.unitSize .idle (pathRequest id path ++ more) = some (pathRequest id path).length := by
  rw [unitSize_request hid, Nat.mod_eq_of_lt hpath, length_pathRequest]

/-- A request reaches the service as it was meant, if its length was told. -/
theorem packetArrived_request (store : RemoteStore) (failure : Option String) (id : PacketId)
    (path : String) :
    SyncService.packetArrived store failure .idle (pathRequest id path) =
      SyncService.request store (packet id (UInt32.ofNat (Bytes.ofString path).length)) path := by
  rw [SyncService.packetArrived, pathRequest, packetWith, take_packet, drop_packet,
    Utf8.lossy_ofString]

/-- A request whose length fits its word is served. -/
theorem receive_request (d : MemoryDaemon) {id : PacketId} (hid : id ≠ .quit)
    (hpath : (Bytes.ofString path).length < UInt32.size) {r : SyncReply}
    (hr : SyncService.request d.store (packet id (UInt32.ofNat (Bytes.ofString path).length)) path =
      r) :
    Daemon.receive d ⟨.sync .idle, []⟩ (pathRequest id path) =
      ⟨{ d with store := r.store }, ⟨.ofPhase r.phase, []⟩, r.answer,
        ending ⟨.ofPhase r.phase, []⟩⟩ := by
  have hsize := unitSize_request_of_lt hid hpath []
  rw [List.append_nil] at hsize
  refine receive_whole d (List.nil_append _) ?_ hsize ?_
  · apply List.ne_nil_of_length_pos
    rw [length_pathRequest]
    omega
  · rw [packetArrived_request, hr]

/-- What a request for the contents of a path is answered with. -/
def fetched (store : RemoteStore) (path : String) : Bytes :=
  match store.get? path with
  | some c => SyncService.fileAnswer c.data
  | none => packetWith .fail (Bytes.ofString "No such file or directory")

/-- The service does what the packet says. -/
theorem request_packet (store : RemoteStore) (id : PacketId) (n : UInt32) (path : String) :
    SyncService.request store (packet id n) path =
      match id with
      | .send =>
        ⟨store, .receiving (SyncService.pushTarget path).1 (SyncService.pushTarget path).2 [], []⟩
      | .recv => ⟨store, .idle, fetched store path⟩
      | .stat => ⟨store, .idle, SyncService.statAnswer store path⟩
      | .list => ⟨store, .idle, SyncService.listAnswer store path⟩
      | _ => ⟨store, .ended, []⟩ := by
  cases id with
  | recv =>
    simp only [SyncService.request, isA_packet_alone, reduceCtorEq, decide_false, decide_true,
      if_true, if_false, Bool.false_eq_true, fetched]
    cases store.get? path <;> rfl
  | _ => simp [SyncService.request, isA_packet_alone]

theorem receive_stat (d : MemoryDaemon) (hpath : (Bytes.ofString path).length < UInt32.size) :
    Daemon.receive d ⟨.sync .idle, []⟩ (pathRequest .stat path) =
      ⟨d, ⟨.sync .idle, []⟩, SyncService.statAnswer d.store path, .silent⟩ :=
  receive_request d (by decide) hpath (request_packet _ _ _ _)

theorem receive_list (d : MemoryDaemon) (hpath : (Bytes.ofString path).length < UInt32.size) :
    Daemon.receive d ⟨.sync .idle, []⟩ (pathRequest .list path) =
      ⟨d, ⟨.sync .idle, []⟩, SyncService.listAnswer d.store path, .silent⟩ :=
  receive_request d (by decide) hpath (request_packet _ _ _ _)

theorem receive_recv (d : MemoryDaemon) (hpath : (Bytes.ofString path).length < UInt32.size) :
    Daemon.receive d ⟨.sync .idle, []⟩ (pathRequest .recv path) =
      ⟨d, ⟨.sync .idle, []⟩, fetched d.store path, .silent⟩ :=
  receive_request d (by decide) hpath (request_packet _ _ _ _)

/-! ## Pushes -/

/-- The last comma is the one that was put before the permissions, whatever the path. -/
theorem pushTarget_pushTarget (remote : String) :
    SyncService.pushTarget (pushTarget remote) = (remote, pushedMode) := by
  have hcut : Text.cutAtLast ',' (pushTarget remote).toList =
      some (remote.toList, "420".toList) := by
    rw [pushTarget, String.toList_append, String.toList_append, List.append_assoc]
    exact Text.cutAtLast_append (by decide) remote.toList
  have hmode : Text.word? "420" = some pushedMode := by decide
  simp only [SyncService.pushTarget, hcut, hmode, String.ofList_toList, Option.getD_some]

theorem receive_send (d : MemoryDaemon) (hpath : (Bytes.ofString path).length ≤ pathLimit) :
    Daemon.receive d ⟨.sync .idle, []⟩ (pathRequest .send (pushTarget path)) =
      ⟨d, ⟨.sync (.receiving path pushedMode []), []⟩, [], .silent⟩ := by
  have htarget : (Bytes.ofString (pushTarget path)).length < UInt32.size := by
    have hmore : (Bytes.ofString ("," ++ toString pushedMode.toNat)).length = 4 := by decide
    have hbound : pathLimit + 4 < UInt32.size := by decide
    rw [pushTarget, String.append_assoc, Bytes.ofString_append, List.length_append, hmore]
    omega
  rw [receive_request d (by decide) htarget (request_packet _ _ _ _), pushTarget_pushTarget]
  rfl

/-- A data packet is sent in two parts, of which the first waits for the second. -/
theorem receive_data_header (d : MemoryDaemon) {n : UInt32} (hn : 0 < n.toNat) :
    Daemon.receive d ⟨.sync (.receiving path mode data), []⟩ (packet .data n) =
      ⟨d, ⟨.sync (.receiving path mode data), packet .data n⟩, [], .silent⟩ := by
  have hsize : SyncService.unitSize (.receiving path mode data) (packet .data n) =
      some (8 + n.toNat) := by
    rw [SyncService.unitSize, length_packet, if_neg (Nat.lt_irrefl 8)]
    simp only [isA_packet_alone, wordAt_packet_alone, decide_true, if_true]
  exact receive_part d hsize (by rw [length_packet]; omega)

theorem receive_data_body (d : MemoryDaemon) {chunk : Bytes} (h : chunk.length ≤ dataLimit) :
    Daemon.receive d
        ⟨.sync (.receiving path mode data), packet .data (UInt32.ofNat chunk.length)⟩ chunk =
      ⟨d, ⟨.sync (.receiving path mode (data ++ chunk)), []⟩, [], .silent⟩ := by
  have hword : (UInt32.ofNat chunk.length).toNat = chunk.length := toNat_ofNat_length h
  have hlength := length_packetWith .data chunk
  refine receive_whole (r := ⟨d.store, .receiving path mode (data ++ chunk), []⟩) d rfl ?_ ?_ ?_
  · apply List.ne_nil_of_length_pos
    rw [← packetWith, hlength]; omega
  · rw [← packetWith, SyncService.unitSize, hlength, if_neg (by omega)]
    simp only [packetWith, isA_packet, wordAt_packet, hword, decide_true, if_true]
  · rw [SyncService.packetArrived, take_packet, drop_packet]
    simp only [SyncService.pushed, isA_packet_alone, decide_true, if_true]

/-- What the last packet of a push brings about. -/
def pushEnd (store : RemoteStore) (failure : Option String) (path : String) (mode : UInt32)
    (data : Bytes) (mtime : UInt32) : RemoteStore × Bytes :=
  match failure with
  | some message => (store, packetWith .fail (Bytes.ofString message))
  | none => (store.insert path ⟨data, RemoteFile.regularKind ||| mode, mtime⟩, packet .okay 0)

theorem receive_done (d : MemoryDaemon) (mtime : UInt32) :
    let r := pushEnd d.store d.pushFailure path mode data mtime
    Daemon.receive d ⟨.sync (.receiving path mode data), []⟩ (packet .done mtime) =
      ⟨{ d with store := r.1 }, ⟨.sync .idle, []⟩, r.2, .silent⟩ := by
  intro r
  refine receive_whole (r := ⟨r.1, .idle, r.2⟩) d (List.nil_append _) ?_ ?_ ?_
  · exact List.ne_nil_of_length_pos (by rw [length_packet]; omega)
  · rw [SyncService.unitSize, length_packet, if_neg (Nat.lt_irrefl 8)]
    simp only [isA_packet_alone, reduceCtorEq, decide_false, if_false, Bool.false_eq_true]
  · have htake : (packet .done mtime).take 8 = packet .done mtime := by
      simpa using take_packet .done mtime []
    simp only [SyncService.packetArrived, htake, SyncService.pushed, isA_packet_alone,
      wordAt_packet_alone, reduceCtorEq, decide_false, decide_true, if_true, if_false,
      Bool.false_eq_true, r, pushEnd]
    cases d.pushFailure <;> rfl

end DebugBridge.MemoryDaemon
