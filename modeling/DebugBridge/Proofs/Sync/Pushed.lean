import DebugBridge.Proofs.Sync.Pulled
import Mathlib.Data.List.Forall2

/-!
# What a push sends, and what comes of it

A push sends the path and the permissions of the file, its contents as they are read, chunk by chunk, and its
time (`pushSends`). What the daemon makes of that is its reply. Every byte string is a reply: consent,
a refusal with its message, something else, or one that breaks off (`PushReply`).

Results:
* `sendFile_run`: what is sent before the reply is read;
* `exists_pushReply`, `pushAnswer_of_reply`: every reply stands for one outcome;
* `push_of_chunks`: a push of a file that can be read, in chunks of any kind.
-/

namespace DebugBridge.Sync

variable {body : Bytes} {chunks : List Bytes} {ending : Ending} {b : Bytes} {o : Outcome} {s : Stream}

/-! ## Packets that are sent -/

/-- A packet with a body, whose length is its word. -/
inductive IsPacket (id : PacketId) (body : Bytes) : Bytes → Prop
  | mk (n : UInt32) (h : n.toNat = body.length) :
    IsPacket id body (id.letters ++ Bytes.ofWord n ++ body)

theorem isPacket_packetWith (id : PacketId) (h : body.length ≤ dataLimit) :
    IsPacket id body (packetWith id body) :=
  .mk _ (toNat_ofNat_length h)

/-- The byte strings that a push sends, one after the other. -/
def pushSends (remote : String) (chunks : List Bytes) (mtime : UInt32) : List Bytes :=
  pathRequest .send (pushTarget remote) ::
    (chunks.flatMap (fun chunk => [packet .data (UInt32.ofNat chunk.length), chunk]) ++
      [packet .done mtime])

theorem flatten_pushSends (remote : String) (chunks : List Bytes) (mtime : UInt32) :
    (pushSends remote chunks mtime).flatten =
      pathRequest .send (pushTarget remote) ++ dataPackets chunks ++ packet .done mtime := by
  have hchunks : (chunks.flatMap fun chunk =>
      [packet .data (UInt32.ofNat chunk.length), chunk]).flatten = dataPackets chunks := by
    induction chunks with
    | nil => rfl
    | cons chunk chunks ih =>
      rw [List.flatMap_cons, List.flatten_append, ih, dataPackets_cons]
      simp [packetWith]
  rw [pushSends, List.flatten_cons, List.flatten_append, hchunks, List.flatten_singleton,
    List.append_assoc]

theorem pushTarget_eq (remote : String) : pushTarget remote = remote ++ ",420" :=
  String.append_assoc

/-- The target of a push has its place in a packet. -/
theorem length_pushTarget {remote : String} (h : (Bytes.ofString remote).length ≤ pathLimit) :
    (Bytes.ofString (pushTarget remote)).length ≤ dataLimit := by
  have hmode : (Bytes.ofString ("," ++ toString pushedMode.toNat)).length = 4 := by decide
  rw [pushTarget, String.append_assoc, Bytes.ofString_append, List.length_append, hmode]
  have : pathLimit + 4 ≤ dataLimit := by decide
  omega

section Sending

variable {D S : Type} [Daemon D S]

/-- A connection on which some bytes have been sent. -/
def feed (w : Wire D S) (b : Bytes) : Wire D S :=
  let r := Daemon.receive w.daemon w.session b
  ⟨r.daemon, r.session, w.stream.extend r.answer r.ending⟩

theorem send_run (w : Wire D S) (b : Bytes) : (Call.send b).run w = (.ok (), feed w b) := rfl

theorem sendChunks_run (chunks : List Bytes) (w : Wire D S) :
    (sendChunks chunks).run w = (.ok (),
      (chunks.flatMap fun chunk => [packet .data (UInt32.ofNat chunk.length), chunk]).foldl feed
        w) := by
  induction chunks generalizing w with
  | nil => rfl
  | cons chunk chunks ih =>
    rw [sendChunks, run_bind_ok (send_run w _), run_bind_ok (send_run _ _), ih, List.flatMap_cons,
      List.foldl_append]
    rfl

/-- Everything is sent before the reply is read. -/
theorem sendFile_run (remote : String) (chunks : List Bytes) (mtime : UInt32) (w : Wire D S) :
    (sendFile remote chunks mtime).run w =
      (Call.within "reading from adb daemon" pushAnswer).run
        ((pushSends remote chunks mtime).foldl feed w) := by
  rw [sendFile, run_bind_ok (send_run w _), run_bind_ok (sendChunks_run chunks _),
    run_bind_ok (send_run _ _), pushSends, List.foldl_cons, List.foldl_append]
  rfl

end Sending

/-! ## Replies -/

/-- A reply that breaks off: of so many bytes that are read at once, not all are there. -/
inductive CutReply : Bytes → Nat → Prop
  | header {b : Bytes} (h : b.length < 8) : CutReply b 8
  /-- The message of a refusal is not complete. -/
  | message {n : UInt32} {body : Bytes} (h : n.toNat ≤ dataLimit) (hcut : body.length < n.toNat) :
    CutReply (packet .fail n ++ body) n.toNat

/-- How the reply to a push can go, and the outcome that it stands for; `ending` comes after the last
byte. -/
inductive PushReply (ending : Ending) : Bytes → Outcome → Prop
  | consent (arg : UInt32) (more : Bytes) : PushReply ending (packet .okay arg ++ more) .success
  | refusal {body : Bytes} (h : body.length ≤ dataLimit) (more : Bytes) :
    PushReply ending (packetWith .fail body ++ more) (.because .remoteError (Utf8.lossy body))
  /-- A refusal whose message is over the limit. -/
  | overlong {n : UInt32} (h : dataLimit < n.toNat) (more : Bytes) :
    PushReply ending (packet .fail n ++ more)
      (.ofError (.protocol
        s!"FAIL message of {n.toNat} bytes exceeds the {dataLimit} byte limit"))
  /-- A packet of another kind. -/
  | unknown {letters : Bytes} (hlength : letters.length = 4) (hokay : letters ≠ PacketId.okay.letters)
    (hfail : letters ≠ PacketId.fail.letters) (arg : UInt32) (more : Bytes) :
    PushReply ending (letters ++ Bytes.ofWord arg ++ more)
      (.because .protocolError ("unexpected sync reply " ++ shownLetters letters))
  | cut {b : Bytes} {n : Nat} (h : CutReply b n) : PushReply ending b (brokenOff ending n)

/-- Whatever is received, it is a reply. -/
theorem exists_pushReply (ending : Ending) (b : Bytes) : ∃ o, PushReply ending b o := by
  by_cases hshort : b.length < 8
  · exact ⟨_, .cut (.header hshort)⟩
  obtain ⟨letters, n, more, hlength, rfl⟩ := exists_header (Nat.not_lt.1 hshort)
  by_cases hokay : letters = PacketId.okay.letters
  · subst hokay
    exact ⟨_, .consent n more⟩
  by_cases hfail : letters = PacketId.fail.letters
  · subst hfail
    by_cases hover : dataLimit < n.toNat
    · exact ⟨_, .overlong hover more⟩
    by_cases hcut : more.length < n.toNat
    · exact ⟨_, .cut (.message (Nat.not_lt.1 hover) hcut)⟩
    -- The message is complete, and something may come behind it.
    have hbody : (more.take n.toNat).length ≤ dataLimit := by
      rw [List.length_take]
      omega
    have hrefusal : PushReply ending _ _ := .refusal hbody (more.drop n.toNat)
    rw [← packetWith_take _ (Nat.not_lt.1 hcut)] at hrefusal
    exact ⟨_, hrefusal⟩
  · exact ⟨_, .unknown hlength hokay hfail n more⟩

/-- The outcome of a push is the one for which the reply stands. -/
theorem pushAnswer_of_reply (h : PushReply s.ending s.bytes o) : endOf (pushAnswer.run s).1 = o := by
  generalize hbytes : s.bytes = b at h
  cases h with
  | consent arg more =>
    obtain ⟨s₁, hheader, -, -⟩ := exactly_packet hbytes
    rw [pushAnswer, run_bind_ok hheader]
    simp only [isA_packet_alone, decide_true, if_true]
    rfl
  | refusal hlimit more =>
    rw [packetWith, List.append_assoc] at hbytes
    obtain ⟨s₁, hheader, hbytes₁, -⟩ := exactly_packet hbytes
    obtain ⟨s₂, hbody, -, -⟩ := Read.gives_exactly_append hbytes₁
    rw [pushAnswer, run_bind_ok hheader]
    simp only [isA_packet_alone, wordAt_packet_alone, reduceCtorEq, decide_true, decide_false,
      Bool.false_eq_true, if_true, if_false, failMessage, toNat_ofNat_length hlimit,
      if_neg (Nat.not_lt.2 hlimit), run_bind, hbody]
    rfl
  | overlong hover more =>
    obtain ⟨s₁, hheader, -, -⟩ := exactly_packet hbytes
    rw [pushAnswer, run_bind_ok hheader]
    simp only [isA_packet_alone, wordAt_packet_alone, reduceCtorEq, decide_true, decide_false,
      Bool.false_eq_true, if_true, if_false, failMessage, if_pos hover]
    rfl
  | @unknown letters hlength hokay hfail arg more =>
    have hheader := Read.gives_exactly_append hbytes
    rw [List.length_append, hlength, Bytes.length_ofWord] at hheader
    obtain ⟨s₁, hheader, -, -⟩ := hheader
    have htake : (letters ++ Bytes.ofWord arg).take 4 = letters := List.take_left' hlength
    have hnot {id : PacketId} (hid : letters ≠ id.letters) :
        isA id (letters ++ Bytes.ofWord arg) = false := by
      rw [isA, htake]
      exact beq_eq_false_iff_ne.2 hid
    rw [pushAnswer, run_bind_ok hheader]
    simp only [hnot hokay, hnot hfail, Bool.false_eq_true, if_false, shownLetters, htake,
      List.take_of_length_le (Nat.le_of_eq hlength)]
    rfl
  | cut hcut =>
    cases hcut with
    | header hshort =>
      obtain ⟨e, hheader, he⟩ := exactly_of_short (hbytes ▸ hshort : s.bytes.length < 8)
      rw [pushAnswer, run_bind, hheader]
      exact he
    | @message n body hlimit hcut =>
      obtain ⟨s₁, hheader, hbytes₁, hending₁⟩ := exactly_packet hbytes
      obtain ⟨e, hbody, he⟩ := exactly_of_short (hbytes₁ ▸ hcut : s₁.bytes.length < n.toNat)
      rw [pushAnswer, run_bind_ok hheader]
      simp only [isA_packet_alone, wordAt_packet_alone, reduceCtorEq, decide_true, decide_false,
        Bool.false_eq_true, if_true, if_false, failMessage, if_neg (Nat.not_lt.2 hlimit), run_bind,
        hbody]
      exact he.trans (by rw [hending₁])

/-! ## Reports -/

/-- The number of bytes after each chunk, `before` bytes having been moved before them. -/
def runningTotals (before : Nat) : List Bytes → List Nat
  | [] => []
  | chunk :: rest => (before + chunk.length) :: runningTotals (before + chunk.length) rest

theorem progressOf_eq_runningTotals (before : Nat) (chunks : List Bytes) :
    progressOf before chunks = (runningTotals before chunks).map .moved := by
  induction chunks generalizing before with
  | nil => rfl
  | cons chunk chunks ih => rw [progressOf, ih, runningTotals, List.map_cons]

theorem getLast?_runningTotals (before : Nat) (chunks : List Bytes) :
    (runningTotals before chunks).getLast? =
      if chunks = [] then none else some (before + chunks.flatten.length) := by
  induction chunks generalizing before with
  | nil => rfl
  | cons chunk chunks ih =>
    rw [runningTotals, List.getLast?_cons, ih, if_neg (List.cons_ne_nil chunk chunks),
      List.flatten_cons, List.length_append, ← Nat.add_assoc]
    split_ifs with hlast
    · rw [hlast]
      rfl
    · rfl

theorem flatten_eq_nil_iff_of_pos (hchunks : ∀ chunk ∈ chunks, 0 < chunk.length) :
    chunks.flatten = [] ↔ chunks = [] := by
  cases chunks with
  | nil => simp
  | cons chunk chunks =>
    have := List.length_pos_iff.1 (hchunks chunk List.mem_cons_self)
    simp [this]

theorem runningTotals_ascending (hchunks : ∀ chunk ∈ chunks, 0 < chunk.length) (before : Nat) :
    (∀ total ∈ runningTotals before chunks, before < total) ∧
      (runningTotals before chunks).Pairwise (· < ·) := by
  induction chunks generalizing before with
  | nil => exact ⟨nofun, .nil⟩
  | cons chunk chunks ih =>
    obtain ⟨hchunk, hchunks⟩ := List.forall_mem_cons.1 hchunks
    obtain ⟨hlater, hascending⟩ := ih hchunks (before + chunk.length)
    refine ⟨List.forall_mem_cons.2 ⟨by omega, fun total htotal => ?_⟩,
      List.pairwise_cons.2 ⟨hlater, hascending⟩⟩
    have := hlater total htotal
    omega

/-! ## Pushes -/

/-- What is told about a file that can be read. -/
theorem info_of_read {fs : LocalFiles} {path : String} {content : Bytes} {info : FileInfo}
    (hread : fs.read path = .ok content) (hinfo : fs.info path = .ok info) :
    info.isDirectory = false ∧ info.size = content.length := by
  simp only [LocalFiles.read, hinfo, bind, Except.bind] at hread
  simp only [LocalFiles.info, bind, Except.bind] at hinfo
  cases hresolve : fs.resolve path with
  | error e => simp [hresolve] at hinfo
  | ok names =>
    simp only [hresolve] at hread hinfo
    rcases hnode : fs.node? names with _ | ⟨data, mtime⟩ | _ | _
    all_goals simp only [hnode] at hread hinfo
    all_goals cases hread
    split_ifs at hinfo
    cases hinfo
    exact ⟨rfl, rfl⟩

/-- A time before 1970 counts as 1970, and one that is too late as the last that has its place. -/
theorem toNat_clampTime (seconds : Int) :
    (clampTime seconds).toNat = min seconds.toNat (UInt32.size - 1) := by
  rw [clampTime, UInt32.toNat_ofNat']
  refine Nat.mod_eq_of_lt ?_
  have : UInt32.size - 1 < 2 ^ 32 := by decide
  omega

section Pushing

variable {D S : Type} [Daemon D S] {cut : Bytes → List Bytes} {fs : LocalFiles} {path remote : String}
  {content : Bytes} {info : FileInfo}

theorem pushCut_run (hpath : (Bytes.ofString remote).length ≤ pathLimit)
    (hread : fs.read path = .ok content) (hinfo : fs.info path = .ok info) (w : Wire D S) :
    let sent := (pushSends remote (cut content) (clampTime info.mtime)).foldl feed w
    pushCut cut fs path remote w =
      (⟨endOf (pushAnswer.run sent.stream).1,
          .start content.length :: (runningTotals 0 (cut content)).map .moved, fs⟩,
        { sent with stream := (pushAnswer.run sent.stream).2 }) := by
  intro sent
  obtain ⟨hfile, hsize⟩ := info_of_read hread hinfo
  rw [pushCut, if_neg (Nat.not_lt.2 hpath)]
  simp only [hinfo, hfile, Bool.false_eq_true, if_false, hread]
  rw [stateM_bind, sendFile_run, Call.within, Call.run_reading, hsize, progressOf_eq_runningTotals]
  rcases pushAnswer.run sent.stream with ⟨(_ | e) | o, s⟩ <;> rfl

/-- **Main theorem.** A file that can be read is pushed to a path that is not too long, its contents
being read in chunks that are not empty and within the limit.
* Before the reply is read, one packet with the path and the permissions is sent, one data packet for each
  chunk, and the packet that ends them, with the time held within its range.
* The length of the file is reported first, and then, after each chunk, how many bytes were sent so far.
* Consent means success. A refusal fails with its message. If the daemon is silent before its reply is
  complete, the time is over. Whatever else it replies is an error of the protocol. -/
theorem push_of_chunks (hpath : (Bytes.ofString remote).length ≤ pathLimit)
    (hread : fs.read path = .ok content) (hinfo : fs.info path = .ok info)
    (hwhole : (cut content).flatten = content)
    (hcut : ∀ chunk ∈ cut content, 0 < chunk.length ∧ chunk.length ≤ dataLimit) (w : Wire D S) :
    let t := (pushCut cut fs path remote w).1
    let sends := pushSends remote (cut content) (clampTime info.mtime)
    let reply := (sends.foldl feed w).stream
    let totals := runningTotals 0 (cut content)
    (∃ request packets,
      sends.flatten = request ++ packets.flatten ++ packet .done (clampTime info.mtime) ∧
      IsPacket .send (Bytes.ofString (remote ++ ",420")) request ∧
      List.Forall₂ (IsPacket .data) (cut content) packets) ∧
    (clampTime info.mtime).toNat = min info.mtime.toNat (UInt32.size - 1) ∧
    (∃ rest, (pushCut cut fs path remote w).2 = { sends.foldl feed w with stream := rest }) ∧
    t.progress = .start content.length :: totals.map .moved ∧
    totals.Pairwise (· < ·) ∧
    totals.getLast? = (if content = [] then none else some content.length) ∧
    (∀ arg more, reply.bytes = packet .okay arg ++ more → t.outcome = .success) ∧
    (∀ body more, body.length ≤ dataLimit → reply.bytes = packetWith .fail body ++ more →
      t.outcome = .because .remoteError (Utf8.lossy body)) ∧
    (reply.ending = .silent → ∀ n, CutReply reply.bytes n → t.outcome.code = .timeout) ∧
    ((∀ arg more, reply.bytes ≠ packet .okay arg ++ more) →
      (∀ body more, body.length ≤ dataLimit → reply.bytes ≠ packetWith .fail body ++ more) →
      (reply.ending = .silent → ∀ n, ¬ CutReply reply.bytes n) →
      t.outcome.code = .protocolError) := by
  intro t sends reply totals
  obtain ⟨o, ho⟩ := exists_pushReply reply.ending reply.bytes
  have hrun : pushCut cut fs path remote w = _ := pushCut_run hpath hread hinfo w
  have houtcome {o : Outcome} (h : PushReply reply.ending reply.bytes o) : t.outcome = o := by
    rw [← pushAnswer_of_reply h, show t = _ from congrArg Prod.fst hrun]
  refine ⟨?_, toNat_clampTime info.mtime, ⟨_, congrArg Prod.snd hrun⟩, ?_, ?_, ?_, ?_, ?_, ?_, ?_⟩
  · refine ⟨_, (cut content).map (packetWith .data), flatten_pushSends .., ?_, ?_⟩
    · rw [pathRequest, ← pushTarget_eq]
      exact isPacket_packetWith .send (length_pushTarget hpath)
    · rw [List.forall₂_map_right_iff, List.forall₂_same]
      exact fun chunk hchunk => isPacket_packetWith .data (hcut chunk hchunk).2
  · rw [show t = _ from congrArg Prod.fst hrun]
  · exact (runningTotals_ascending (fun chunk hchunk => (hcut chunk hchunk).1) 0).2
  · rw [show totals = _ from rfl, getLast?_runningTotals, hwhole, Nat.zero_add]
    have hempty := flatten_eq_nil_iff_of_pos fun chunk hchunk => (hcut chunk hchunk).1
    rw [hwhole] at hempty
    simp only [hempty]
  · intro arg more hreply
    exact houtcome (hreply ▸ .consent arg more)
  · intro body more hlimit hreply
    exact houtcome (hreply ▸ .refusal hlimit more)
  · intro hsilent n hcut
    rw [houtcome (.cut hcut), hsilent]
    rfl
  · intro hconsent hrefusal hsilent
    rw [houtcome ho]
    generalize hreply : reply.bytes = b at ho
    cases ho with
    | consent arg more => exact absurd hreply (hconsent arg more)
    | refusal hlimit more => exact absurd hreply (hrefusal _ more hlimit)
    | overlong | unknown => rfl
    | cut hcut =>
      cases hending : reply.ending with
      | closed => rfl
      | silent => exact absurd (hreply ▸ hcut) (hsilent hending _)

end Pushing

/-- A file of two bytes is pushed in two chunks, and the daemon consents. -/
theorem push_of_singleBytes :
    let fs : LocalFiles := { nodes := Dict.empty.insert "f" (.file [104, 105] 7) }
    let cut : Bytes → List Bytes := fun b => b.map ([·])
    let w : Wire Script Ending := ⟨.saying "" default, .closed, .ofBytes (packet .okay 0) .closed⟩
    let t := (pushCut cut fs "f" "/sdcard/f" w).1
    fs.read "f" = .ok [104, 105] ∧ (cut [104, 105]).flatten = [104, 105] ∧
      t.outcome = .success ∧ t.progress = [.start 2, .moved 1, .moved 2] := by
  intro fs cut w t
  have hread : fs.read "f" = .ok [104, 105] := by decide
  have hinfo : fs.info "f" = .ok ⟨false, 2, 7⟩ := by decide
  have hpath : (Bytes.ofString "/sdcard/f").length ≤ pathLimit := by decide
  have hwhole : (cut [104, 105]).flatten = [104, 105] := rfl
  obtain ⟨-, -, -, hprogress, -, -, hconsent, -⟩ :=
    push_of_chunks hpath hread hinfo hwhole (by decide) w
  exact ⟨hread, hwhole, hconsent 0 [] (by decide), hprogress⟩

end DebugBridge.Sync
