import DebugBridge.Proofs.Text.Utf8
import DebugBridge.Sync.DirectoryAnswer

/-!
# Answers of the sync service, read

What the service sends is read to its last byte and no further, whatever comes after it. There is one
lemma for each answer that the service gives: the end of a push, a refusal, the contents of a file, what
is told about a path, and a directory.

Results: `pushAnswer_okay`, `pushAnswer_fail`, `receive_fileAnswer`, `receive_fail`,
`statAnswer_run`, `listAnswer_run`.
-/

namespace DebugBridge.Sync

variable {rest : Bytes} {ending : Ending}

/-! ## Packets with a message -/

theorem failMessage_run {message : String} (h : (Bytes.ofString message).length ≤ dataLimit) :
    (failMessage (UInt32.ofNat (Bytes.ofString message).length)).run
        (.ofBytes (Bytes.ofString message ++ rest) ending) =
      (.ok message, .ofBytes rest ending) := by
  rw [failMessage, toNat_ofNat_length h, if_neg (Nat.not_lt.2 h),
    run_bind_ok (Read.exactly_ofBytes _ _ _ rfl)]
  show (Except.ok (Utf8.lossy (Bytes.ofString message)), _) = _
  rw [Utf8.lossy_ofString]

/-! ## The end of a push -/

theorem pushAnswer_okay :
    pushAnswer.run (.ofBytes (packet .okay 0 ++ rest) ending) =
      (.ok .success, .ofBytes rest ending) := by
  rw [pushAnswer, run_bind_ok (Read.exactly_ofBytes _ _ _ (length_packet .okay 0))]
  simp only [isA_packet_alone, decide_true, if_true]
  rfl

theorem pushAnswer_fail {message : String} (h : (Bytes.ofString message).length ≤ dataLimit) :
    pushAnswer.run (.ofBytes (packetWith .fail (Bytes.ofString message) ++ rest) ending) =
      (.ok (.because .remoteError message), .ofBytes rest ending) := by
  rw [pushAnswer, packetWith, List.append_assoc,
    run_bind_ok (Read.exactly_ofBytes _ _ _ (length_packet .fail _))]
  simp only [isA_packet_alone, wordAt_packet_alone, reduceCtorEq, decide_true, decide_false, if_true,
    if_false, Bool.false_eq_true]
  rw [run_bind_ok (failMessage_run h)]
  rfl

/-! ## What is told about a path -/

theorem statAnswer_run (asked : String) (mode size mtime : UInt32) :
    (statAnswer asked).run (.ofBytes
        (packet .stat mode ++ Bytes.ofWord size ++ Bytes.ofWord mtime ++ rest) ending) =
      (.ok (if mode = 0 then none else some ⟨remoteName asked, mode, size, mtime⟩),
        .ofBytes rest ending) := by
  have hreply : packet .stat mode ++ Bytes.ofWord size ++ Bytes.ofWord mtime =
      packet .stat mode ++ ([size, mtime].flatMap Bytes.ofWord ++ []) := by simp
  have hsize := wordAt_packet_succ .stat mode [size, mtime] [] 0 Nat.zero_lt_two
  have hmtime := wordAt_packet_succ .stat mode [size, mtime] [] 1 Nat.one_lt_two
  rw [hreply, statAnswer, run_bind_ok (Read.exactly_ofBytes _ _ _ (by simp [length_packet]; rfl))]
  simp only [isA_packet, wordAt_packet, decide_true, if_true]
  by_cases hmode : mode = 0
  · rw [if_pos hmode, if_pos hmode]
    rfl
  · rw [if_neg hmode, if_neg hmode, hsize, hmtime]
    rfl

/-! ## The contents of a file -/

/-- The packets are read one after the other. -/
theorem receive_eq (s : Stream) (chunks : List Bytes) :
    receive s chunks =
      match (Read.exactly 8).run s with
      | (.error e, s') => (⟨chunks, .error e⟩, s')
      | (.ok header, s') =>
        if isA .data header then
          if dataLimit < (wordAt header 0).toNat then
            (⟨chunks, .ok (.because .bufferOverrun s!"chunk of {(wordAt header 0).toNat} bytes")⟩,
              s')
          else
            match (Read.exactly (wordAt header 0).toNat).run s' with
            | (.error e, s'') => (⟨chunks, .error e⟩, s'')
            | (.ok chunk, s'') => receive s'' (chunks ++ [chunk])
        else if isA .done header then (⟨chunks, .ok .success⟩, s')
        else if isA .fail header then
          match (failMessage (wordAt header 0)).run s' with
          | (.ok message, s'') => (⟨chunks, .ok (.because .remoteError message)⟩, s'')
          | (.error e, s'') => (⟨chunks, .error e⟩, s'')
        else
          (⟨chunks,
            .ok (.because .protocolError ("unexpected sync packet " ++ shownLetters header))⟩,
            s') := by
  -- Both reads are matched together with the proofs that the recursion ends by, so they are not
  -- rewritten in place.
  rw [receive]
  split <;> rename_i hs <;> simp only [hs]
  congr 2
  split <;> rename_i hs' <;> simp only [hs']

theorem receive_data {chunk : Bytes} (h : chunk.length ≤ dataLimit) (chunks : List Bytes) :
    receive (.ofBytes (packetWith .data chunk ++ rest) ending) chunks =
      receive (.ofBytes rest ending) (chunks ++ [chunk]) := by
  have hheader := Read.exactly_ofBytes (packet .data (UInt32.ofNat chunk.length)) (chunk ++ rest)
    ending (length_packet _ _)
  have hbody := Read.exactly_ofBytes chunk rest ending rfl
  rw [packetWith, List.append_assoc, receive_eq, hheader]
  simp only [isA_packet_alone, wordAt_packet_alone, toNat_ofNat_length h, decide_true, if_true,
    if_neg (Nat.not_lt.2 h), hbody]

theorem receive_done (chunks : List Bytes) :
    receive (.ofBytes (packet .done 0 ++ rest) ending) chunks =
      (⟨chunks, .ok .success⟩, .ofBytes rest ending) := by
  have hheader := Read.exactly_ofBytes (packet .done 0) rest ending (length_packet _ _)
  rw [receive_eq, hheader]
  simp only [isA_packet_alone, decide_true, if_true]
  rfl

theorem receive_chunks {chunks : List Bytes} (h : ∀ chunk ∈ chunks, chunk.length ≤ dataLimit)
    (before : List Bytes) :
    receive (.ofBytes (chunks.flatMap (packetWith .data) ++ rest) ending) before =
      receive (.ofBytes rest ending) (before ++ chunks) := by
  induction chunks generalizing before with
  | nil => rw [List.flatMap_nil, List.nil_append, List.append_nil]
  | cons chunk chunks ih =>
    rw [List.flatMap_cons, List.append_assoc, receive_data (h chunk List.mem_cons_self),
      ih fun c hc => h c (List.mem_cons_of_mem _ hc), List.append_assoc]
    rfl

theorem receive_fileAnswer (data : Bytes) :
    receive (.ofBytes (SyncService.fileAnswer data ++ rest) ending) [] =
      (⟨Bytes.pieces dataLimit data, .ok .success⟩, .ofBytes rest ending) := by
  have hlengths : ∀ chunk ∈ Bytes.pieces dataLimit data, chunk.length ≤ dataLimit :=
    fun chunk hc => (Bytes.mem_pieces (by decide) hc).2
  rw [SyncService.fileAnswer, List.append_assoc, receive_chunks hlengths, receive_done,
    List.nil_append]

theorem receive_fail {message : String} (h : (Bytes.ofString message).length ≤ dataLimit)
    (chunks : List Bytes) :
    receive (.ofBytes (packetWith .fail (Bytes.ofString message) ++ rest) ending) chunks =
      (⟨chunks, .ok (.because .remoteError message)⟩, .ofBytes rest ending) := by
  have hheader := Read.exactly_ofBytes
    (packet .fail (UInt32.ofNat (Bytes.ofString message).length)) (Bytes.ofString message ++ rest)
    ending (length_packet _ _)
  rw [packetWith, List.append_assoc, receive_eq, hheader]
  simp only [isA_packet_alone, wordAt_packet_alone, decide_true, if_true, failMessage_run h]
  rfl

/-! ## A directory -/

theorem length_words (words : List UInt32) :
    (words.flatMap Bytes.ofWord).length = 4 * words.length := by
  induction words with
  | nil => rfl
  | cons w words ih =>
    rw [List.flatMap_cons, List.length_append, ih, Bytes.length_ofWord, List.length_cons]
    omega

theorem length_entryHeader (id : PacketId) (mode size mtime n : UInt32) :
    (entryHeader id mode size mtime n).length = 20 := by
  rw [entryHeader, List.length_append, length_letters, length_words]
  rfl

section Header

variable (mode size mtime n : UInt32)

theorem isA_entryHeader (id id' : PacketId) :
    isA id' (entryHeader id mode size mtime n) = decide (id = id') :=
  isA_letters id id' _

theorem wordAt_entryHeader (id : PacketId) (i : Nat) (hi : i < 4) :
    wordAt (entryHeader id mode size mtime n) i = [mode, size, mtime, n][i] := by
  have := wordAt_letters id [mode, size, mtime, n] [] i hi
  rwa [List.append_nil] at this

end Header

/-- Reads entries, some having been found before. -/
def moreEntries (found : List RemoteFile) : Read (List RemoteFile) := fun s => entries s found

/-- The entries are read one after the other. -/
theorem moreEntries_eq (found : List RemoteFile) :
    moreEntries found = (do
      let header ← Read.exactly 20
      if isA .done header then pure found
      else if isA .dent header then
        if pathLimit < (wordAt header 3).toNat then
          Read.fail (.protocol
            s!"LIST entry name of {(wordAt header 3).toNat} bytes exceeds the {pathLimit} byte limit")
        else do
          let name ← Read.exactly (wordAt header 3).toNat
          moreEntries (found ++ (SentEntry.file?
            ⟨wordAt header 0, wordAt header 1, wordAt header 2, name⟩).toList)
      else Read.fail (.protocol ("unexpected LIST packet " ++ shownLetters header))) := by
  funext s
  show entries s found = (Read.exactly 20 >>= _).run s
  -- Both reads are matched together with the proofs that the recursion ends by, so they are not
  -- rewritten in place.
  rw [entries, run_bind]
  split <;> rename_i s₁ hs <;> simp only [hs]
  rename_i header
  cases hdone : isA .done header with
  | true => simp only [if_true]; rfl
  | false =>
    cases hdent : isA .dent header with
    | false => simp only [Bool.false_eq_true, if_false]; rfl
    | true =>
      by_cases hlong : pathLimit < (wordAt header 3).toNat
      · simp only [Bool.false_eq_true, if_true, if_false, if_pos hlong]
        rfl
      · simp only [Bool.false_eq_true, if_true, if_false, if_neg hlong, run_bind]
        split <;> rename_i s₂ hs' <;> simp only [hs']
        simp only [SentEntry.file?, listed?]
        split <;> simp [moreEntries, ExceptT.run]

/-- After the header of an entry whose name is within the limit the name is read. -/
theorem moreEntries_run {mode size mtime n : UInt32} {s s' : Stream}
    (h : (Read.exactly 20).run s = (.ok (entryHeader .dent mode size mtime n), s'))
    (hn : n.toNat ≤ pathLimit) (found : List RemoteFile) :
    (moreEntries found).run s = (do
      let name ← Read.exactly n.toNat
      moreEntries (found ++ (SentEntry.file? ⟨mode, size, mtime, name⟩).toList)).run s' := by
  have hword := wordAt_entryHeader mode size mtime n .dent
  rw [moreEntries_eq, run_bind_ok h]
  simp only [isA_entryHeader, reduceCtorEq, decide_true, decide_false, Bool.false_eq_true, if_true,
    if_false, hword 0 (by decide), hword 1 (by decide), hword 2 (by decide), hword 3 (by decide),
    List.getElem_cons_zero, List.getElem_cons_succ, if_neg (Nat.not_lt.2 hn)]

theorem entries_entry {name : String} (h : (Bytes.ofString name).length ≤ pathLimit)
    (mode size mtime : UInt32) (found : List RemoteFile) :
    entries (.ofBytes (SyncService.entry name mode size mtime ++ rest) ending) found =
      entries (.ofBytes rest ending) (found ++ (listed? name mode size mtime).toList) := by
  have hlength : (UInt32.ofNat (Bytes.ofString name).length).toNat = (Bytes.ofString name).length :=
    toNat_ofNat_length (Nat.le_trans h (by decide))
  have hentry : SyncService.entry name mode size mtime =
      SentEntry.packet ⟨mode, size, mtime, Bytes.ofString name⟩ := by
    simp [SyncService.entry, SentEntry.packet, entryHeader, packet]
  have hheader := Read.exactly_ofBytes _ (Bytes.ofString name ++ rest) ending
    (length_entryHeader .dent mode size mtime (UInt32.ofNat (Bytes.ofString name).length))
  have hname := Read.exactly_ofBytes (Bytes.ofString name) rest ending rfl
  show (moreEntries found).run _ = (moreEntries _).run _
  rw [hentry, SentEntry.packet, List.append_assoc, moreEntries_run hheader (by rwa [hlength]),
    hlength, run_bind_ok hname, SentEntry.file?, Utf8.lossy_ofString]

theorem entries_done (found : List RemoteFile) :
    entries (.ofBytes (packet .done 0 ++ List.replicate 12 0 ++ rest) ending) found =
      (.ok found, .ofBytes rest ending) := by
  have hread := Read.exactly_ofBytes (packet .done 0 ++ List.replicate 12 0) rest ending
    (n := 20) (by rw [List.length_append, length_packet]; rfl)
  show (moreEntries found).run _ = _
  rw [moreEntries_eq, run_bind_ok hread]
  simp only [isA_packet, decide_true, if_true]
  rfl

theorem entries_children {children : List (String × RemoteContent)} (found : List RemoteFile)
    (h : ∀ child ∈ children, (Bytes.ofString child.1).length ≤ pathLimit) :
    entries (.ofBytes ((children.flatMap fun (name, c) =>
        SyncService.entry name c.mode c.size c.mtime) ++ rest) ending) found =
      entries (.ofBytes rest ending) (found ++ children.filterMap fun (name, c) =>
        listed? name c.mode c.size c.mtime) := by
  induction children generalizing found with
  | nil => rw [List.flatMap_nil, List.nil_append, List.filterMap_nil, List.append_nil]
  | cons child children ih =>
    obtain ⟨name, c⟩ := child
    rw [List.flatMap_cons, List.append_assoc, entries_entry (h (name, c) List.mem_cons_self),
      ih _ fun c hc => h c (List.mem_cons_of_mem _ hc), List.append_assoc, List.filterMap_cons]
    cases hlisted : listed? name c.mode c.size c.mtime <;> simp [hlisted]

theorem listAnswer_run {store : RemoteStore} {path : String}
    (h : ∀ child ∈ store.children path, (Bytes.ofString child.1).length ≤ pathLimit) :
    listAnswer.run (.ofBytes (SyncService.listAnswer store path ++ rest) ending) =
      (.ok (children store path), .ofBytes rest ending) := by
  have hdot : (Bytes.ofString ".").length ≤ pathLimit := by decide
  have hdots : (Bytes.ofString "..").length ≤ pathLimit := by decide
  have hnone : ∀ name mode size mtime, name = "." ∨ name = ".." →
      listed? name mode size mtime = none := fun name mode size mtime hn => if_pos hn
  show entries _ [] = _
  rw [SyncService.listAnswer]
  simp only [List.append_assoc]
  rw [entries_entry hdot, hnone _ _ _ _ (Or.inl rfl), entries_entry hdots,
    hnone _ _ _ _ (Or.inr rfl), entries_children _ h, ← List.append_assoc (packet .done 0),
    entries_done]
  rfl

end DebugBridge.Sync
