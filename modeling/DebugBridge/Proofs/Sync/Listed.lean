import DebugBridge.Proofs.Sync.Pulled
import DebugBridge.Proofs.Wire.Portions
import DebugBridge.Sync.DirectoryAnswer

/-!
# What comes of a request for a directory

Every byte string is an answer to the request: entries, as many as are complete and have names within
the limit, and then something that ends it (`exists_directoryAnswers`). What is read follows the answer
to its end (`ends_listAnswer`), whatever the daemon sends and however it arrives. The bytes are asked
for in small portions, a header or a name within the limit (`le_of_asks_listAnswer`).

Results: `exists_directoryAnswers`, `ends_listAnswer`, `le_of_asks_listAnswer`, `list_of_answers`.
-/

namespace DebugBridge.Sync

variable {ending : Ending} {s : Stream} {rest : Bytes} {sent : List SentEntry} {e : Error}

/-! ## Every byte string is an answer -/

/-- Bytes begin with as many words as there is room for. -/
theorem exists_words {b : Bytes} (k : Nat) (h : 4 * k ≤ b.length) :
    ∃ (words : List UInt32) (more : Bytes), words.length = k ∧
      b = words.flatMap Bytes.ofWord ++ more := by
  induction k generalizing b with
  | zero => exact ⟨[], b, rfl, rfl⟩
  | succ k ih =>
    match b, h with
    | x₁ :: x₂ :: x₃ :: x₄ :: b, h =>
      obtain ⟨words, more, hlength, rfl⟩ := ih (b := b) (by simp only [List.length_cons] at h; omega)
      refine ⟨Bytes.word [x₁, x₂, x₃, x₄] :: words, more, by rw [List.length_cons, hlength], ?_⟩
      rw [List.flatMap_cons, Bytes.ofWord_word]
      rfl

/-- The packet of an entry whose name is complete. -/
theorem packet_take {mode size mtime n : UInt32} {more : Bytes} (h : n.toNat ≤ more.length) :
    entryHeader .dent mode size mtime n ++ more =
      SentEntry.packet ⟨mode, size, mtime, more.take n.toNat⟩ ++ more.drop n.toNat := by
  rw [SentEntry.packet, List.length_take, Nat.min_eq_left h, UInt32.ofNat_toNat, List.append_assoc,
    List.take_append_drop]

/-- Twenty bytes or more begin like the packet of an entry. -/
theorem exists_entryLetters {b : Bytes} (h : 20 ≤ b.length) :
    ∃ (letters : Bytes) (mode size mtime n : UInt32) (more : Bytes), letters.length = 4 ∧
      b = letters ++ [mode, size, mtime, n].flatMap Bytes.ofWord ++ more := by
  obtain ⟨words, more, hwords, hmore⟩ := exists_words (b := b.drop 4) 4 (by
    rw [List.length_drop]
    omega)
  match words, hwords with
  | [mode, size, mtime, n], _ =>
    refine ⟨b.take 4, mode, size, mtime, n, more, ?_, ?_⟩
    · rw [List.length_take]
      omega
    · rw [List.append_assoc, ← hmore, List.take_append_drop]

theorem exists_directoryEnd (ending : Ending) (b : Bytes) :
    ∃ (sent : List SentEntry) (rest : Bytes) (r : Except Error Bytes),
      (∀ e ∈ sent, e.name.length ≤ pathLimit) ∧ b = sent.flatMap SentEntry.packet ++ rest ∧
        DirectoryEnd ending rest r := by
  induction hl : b.length using Nat.strongRecOn generalizing b with
  | ind len ih =>
    have alone {r : Except Error Bytes} (h : DirectoryEnd ending b r) :
        ∃ (sent : List SentEntry) (rest : Bytes) (r : Except Error Bytes),
          (∀ e ∈ sent, e.name.length ≤ pathLimit) ∧ b = sent.flatMap SentEntry.packet ++ rest ∧
            DirectoryEnd ending rest r :=
      ⟨[], b, r, nofun, rfl, h⟩
    by_cases hshort : b.length < 20
    · exact alone (.cut (.header hshort))
    obtain ⟨letters, mode, size, mtime, n, more, hletters, rfl⟩ :=
      exists_entryLetters (Nat.not_lt.1 hshort)
    have hwords := length_words [mode, size, mtime, n]
    by_cases hdone : letters = PacketId.done.letters
    · subst hdone
      exact alone (.done hwords more)
    by_cases hdent : letters = PacketId.dent.letters
    · subst hdent
      by_cases hover : pathLimit < n.toNat
      · exact alone (.overlong hover more)
      by_cases hcut : more.length < n.toNat
      · exact alone (.cut (.name (Nat.not_lt.1 hover) hcut))
      -- The entry is complete: the answer goes on behind it.
      have hname : (more.take n.toNat).length ≤ pathLimit := by
        rw [List.length_take]
        omega
      have hlt : (more.drop n.toNat).length < len := by
        rw [List.length_append, List.length_append, hletters] at hl
        rw [List.length_drop]
        omega
      obtain ⟨sent, rest, r, hsent, hmore, hend⟩ := ih _ hlt _ rfl
      refine ⟨⟨mode, size, mtime, more.take n.toNat⟩ :: sent, rest, r,
        List.forall_mem_cons.2 ⟨hname, hsent⟩, ?_, hend⟩
      show entryHeader .dent mode size mtime n ++ more = _
      rw [packet_take (Nat.not_lt.1 hcut), hmore, List.flatMap_cons, List.append_assoc]
    · exact alone (.unknown hletters hdone hdent hwords more)

/-- Whatever is received, it is an answer. -/
theorem exists_directoryAnswers (s : Stream) : ∃ sent r, DirectoryAnswers s sent r := by
  obtain ⟨sent, rest, r, hsent, hbytes, hend⟩ := exists_directoryEnd s.ending s.bytes
  exact ⟨sent, r, hsent, rest, hbytes, hend⟩

/-! ## An answer as it is read -/

/-- The error of an operation whose read has no value. -/
def failure : Stall → Error
  | .failed e => e
  | .waiting => .timeout "reading from adb daemon"

theorem exactly_of_cut {n : Nat} (h : s.bytes.length < n) :
    ∃ stall, (Read.exactly n).run s = (.error stall, s.exhausted) ∧
      failure stall = cutOff s.ending n := by
  refine ⟨_, Read.exactly_of_lt h, ?_⟩
  cases s.ending <;> rfl

/-- A read gives a value and leaves some bytes, or fails with an error. -/
def Ends {α : Type} (r : Read α) (s : Stream) (a : α) : Except Error Bytes → Prop
  | .ok more => r.Gives s a more
  | .error e => ∃ stall, (r.run s).1 = .error stall ∧ failure stall = e

theorem exactly_entryHeader {mode size mtime n : UInt32} {id : PacketId}
    (h : s.bytes = entryHeader id mode size mtime n ++ rest) :
    (Read.exactly 20).Gives s (entryHeader id mode size mtime n) rest := by
  have hgives := Read.gives_exactly_append h
  rwa [length_entryHeader] at hgives

/-- A header of an entry whose name is within the limit is read, and then the name. -/
theorem moreEntries_of_header {mode size mtime n : UInt32}
    (h : s.bytes = entryHeader .dent mode size mtime n ++ rest) (hn : n.toNat ≤ pathLimit)
    (found : List RemoteFile) :
    ∃ s', s'.bytes = rest ∧ s'.ending = s.ending ∧
      (moreEntries found).run s = (do
        let name ← Read.exactly n.toNat
        moreEntries (found ++ (SentEntry.file? ⟨mode, size, mtime, name⟩).toList)).run s' := by
  obtain ⟨s', hheader, hbytes, hending⟩ := exactly_entryHeader h
  exact ⟨s', hbytes, hending, moreEntries_run hheader hn found⟩

/-- An entry is read, and then what comes behind it. -/
theorem moreEntries_of_entry {entry : SentEntry} (h : s.bytes = entry.packet ++ rest)
    (hname : entry.name.length ≤ pathLimit) (found : List RemoteFile) :
    ∃ s', s'.bytes = rest ∧ s'.ending = s.ending ∧
      (moreEntries found).run s = (moreEntries (found ++ entry.file?.toList)).run s' := by
  have hn : (UInt32.ofNat entry.name.length).toNat = entry.name.length :=
    toNat_ofNat_length (Nat.le_trans hname (by decide))
  rw [SentEntry.packet, List.append_assoc] at h
  obtain ⟨s₁, hbytes₁, hending₁, hrun⟩ := moreEntries_of_header h (by rwa [hn]) found
  obtain ⟨s₂, hread, hbytes₂, hending₂⟩ := Read.gives_exactly_append hbytes₁
  refine ⟨s₂, hbytes₂, hending₂.trans hending₁, ?_⟩
  rw [hrun, hn, run_bind_ok hread]

theorem moreEntries_of_entries (h : s.bytes = sent.flatMap SentEntry.packet ++ rest)
    (hsent : ∀ entry ∈ sent, entry.name.length ≤ pathLimit) (found : List RemoteFile) :
    ∃ s', s'.bytes = rest ∧ s'.ending = s.ending ∧
      (moreEntries found).run s =
        (moreEntries (found ++ sent.filterMap SentEntry.file?)).run s' := by
  induction sent generalizing s found with
  | nil => exact ⟨s, h, rfl, by rw [List.filterMap_nil, List.append_nil]⟩
  | cons entry sent ih =>
    rw [List.flatMap_cons, List.append_assoc] at h
    obtain ⟨hentry, hsent⟩ := List.forall_mem_cons.1 hsent
    obtain ⟨s₁, hbytes₁, hending₁, hrun₁⟩ := moreEntries_of_entry h hentry found
    obtain ⟨s₂, hbytes₂, hending₂, hrun₂⟩ := ih hbytes₁ hsent (found ++ entry.file?.toList)
    refine ⟨s₂, hbytes₂, hending₂.trans hending₁, ?_⟩
    rw [hrun₁, hrun₂, List.append_assoc, List.filterMap_cons]
    cases entry.file? <;> rfl

/-- What ends an answer ends what is read. -/
theorem ends_moreEntries {r : Except Error Bytes} (h : DirectoryEnd s.ending s.bytes r)
    (found : List RemoteFile) : Ends (moreEntries found) s found r := by
  generalize hbytes : s.bytes = b at h
  cases h with
  | @done words hwords more =>
    have hheader := Read.gives_exactly_append hbytes
    rw [List.length_append, length_letters, hwords] at hheader
    rw [moreEntries_eq]
    refine hheader.bind fun s' hs' => ?_
    rw [isA_letters, decide_eq_true rfl, if_pos rfl, ← hs']
    exact Read.gives_pure found s'
  | overlong hover more =>
    obtain ⟨s', hheader, -, -⟩ := exactly_entryHeader hbytes
    rw [Ends, moreEntries_eq, run_bind_ok hheader]
    simp only [isA_entryHeader, reduceCtorEq, decide_true, decide_false, Bool.false_eq_true, if_true,
      if_false, wordAt_entryHeader _ _ _ _ _ 3 (by decide), List.getElem_cons_zero,
      List.getElem_cons_succ, if_pos hover]
    exact ⟨_, rfl, rfl⟩
  | @unknown letters words hletters hdone hdent hwords more =>
    have hheader := Read.gives_exactly_append hbytes
    rw [List.length_append, hletters, hwords] at hheader
    obtain ⟨s', hheader, -, -⟩ := hheader
    have htake : (letters ++ words).take 4 = letters := List.take_left' hletters
    have hnot {id : PacketId} (hid : letters ≠ id.letters) : isA id (letters ++ words) = false := by
      rw [isA, htake]
      exact beq_eq_false_iff_ne.2 hid
    rw [Ends, moreEntries_eq, run_bind_ok hheader]
    simp only [hnot hdone, hnot hdent, Bool.false_eq_true, if_false, shownLetters, htake,
      List.take_of_length_le (Nat.le_of_eq hletters)]
    exact ⟨_, rfl, rfl⟩
  | cut hcut =>
    cases hcut with
    | header hshort =>
      obtain ⟨stall, hread, hstall⟩ := exactly_of_cut (hbytes ▸ hshort : s.bytes.length < 20)
      rw [Ends, moreEntries_eq, run_bind, hread]
      exact ⟨stall, rfl, hstall⟩
    | @name mode size mtime n name hlimit hcut =>
      obtain ⟨s', hbytes', hending, hrun⟩ := moreEntries_of_header hbytes hlimit found
      obtain ⟨stall, hread, hstall⟩ := exactly_of_cut (hbytes' ▸ hcut : s'.bytes.length < n.toNat)
      rw [Ends, hrun, run_bind, hread]
      exact ⟨stall, rfl, hstall.trans (by rw [hending])⟩

/-- The answer to a request for a directory is read to its end. -/
theorem ends_listAnswer {r : Except Error Bytes} (h : DirectoryAnswers s sent r) :
    Ends listAnswer s (sent.filterMap SentEntry.file?) r := by
  obtain ⟨hsent, rest, hbytes, hend⟩ := h
  obtain ⟨s', hrest, hending, hrun⟩ := moreEntries_of_entries hbytes hsent []
  rw [← hrest, ← hending] at hend
  have hends := ends_moreEntries hend (sent.filterMap SentEntry.file?)
  have hlist : listAnswer.run s = (moreEntries (sent.filterMap SentEntry.file?)).run s' := hrun
  cases r with
  | ok more =>
    obtain ⟨s'', hrun', hmore, hending'⟩ := hends
    exact ⟨s'', hlist.trans hrun', hmore, hending'.trans hending⟩
  | error e => rwa [Ends, hlist]

/-! ## What is asked for at once -/

theorem asks_moreEntries (found : List RemoteFile) (s : Stream) :
    ∃ sizes, Read.Asks (moreEntries found) s sizes ∧ ∀ n ∈ sizes, n ≤ pathLimit := by
  induction hsize : s.size using Nat.strongRecOn generalizing found s with
  | ind size ih =>
    have settled {r : Read (List RemoteFile)} {s' : Stream} (x : Except Stall (List RemoteFile))
        (h : ∀ s, r.run s = (x, s)) :
        ∃ sizes, Read.Asks r s' sizes ∧ ∀ n ∈ sizes, n ≤ pathLimit :=
      ⟨[], .nothing h s', nofun⟩
    rw [moreEntries_eq]
    refine Read.asks_bind (· ≤ pathLimit) (by decide) fun header s₁ hheader => ?_
    split
    · exact settled (.ok found) fun _ => rfl
    split
    · split
      · exact settled _ fun _ => rfl
      · rename_i hlimit
        refine Read.asks_bind (· ≤ pathLimit) (Nat.not_lt.1 hlimit) fun name s₂ hname => ?_
        have h₁ := (Read.size_exactly hheader).2
        have h₂ := (Read.size_exactly hname).2
        exact ih s₂.size (by omega) _ s₂ rfl
    · exact settled _ fun _ => rfl

/-- Never are more bytes asked for at once than the longest name has. -/
theorem le_of_asks_listAnswer {sizes : List Nat} (h : Read.Asks listAnswer s sizes) :
    ∀ n ∈ sizes, n ≤ pathLimit := by
  intro n hn
  by_cases hpos : 0 < n
  · obtain ⟨sizes', hasks, hle⟩ := asks_moreEntries [] s
    have hmem : n ∈ sizes.filter (0 < ·) := List.mem_filter.2 ⟨hn, decide_eq_true hpos⟩
    rw [h.unique hasks] at hmem
    exact hle n (List.mem_filter.1 hmem).1
  · omega

/-! ## Requests -/

variable {D S : Type} [Daemon D S]

theorem list_run (remote : String) (w : Wire D S) :
    ((list remote).run w).1 =
        (listAnswer.run (directoryAnswer remote w)).1.mapError failure ∧
      ((list remote).run w).2.stream = (listAnswer.run (directoryAnswer remote w)).2 := by
  have hsend : (Call.send (pathRequest .list remote)).run w = (.ok (),
      ⟨(Daemon.receive w.daemon w.session (pathRequest .list remote)).daemon,
        (Daemon.receive w.daemon w.session (pathRequest .list remote)).session,
        directoryAnswer remote w⟩) := rfl
  rw [list, run_bind_ok hsend, Call.within, Call.run_reading]
  rcases listAnswer.run (directoryAnswer remote w) with ⟨(_ | _) | _, s⟩ <;> exact ⟨rfl, rfl⟩

/-- There is an error of the protocol, or the time is over. -/
theorem DirectoryEnd.error_cases {b : Bytes} (h : DirectoryEnd ending b (.error e)) :
    (∃ detail, e = .protocol detail) ∨
      ending = .silent ∧ e = .timeout "reading from adb daemon" := by
  cases h with
  | overlong | unknown => exact .inl ⟨_, rfl⟩
  | cut =>
    cases ending with
    | closed => exact .inl ⟨_, rfl⟩
    | silent => exact .inr ⟨rfl, rfl⟩

/-- **Main theorem.** Whatever the daemon answers to a request for a directory, and however it arrives:
* There is a list of files exactly if entries with names within the limit come first and then the packet
  that is meant to end them. These are the files that the entries tell of, in their order, and what comes
  behind that packet is left to be read.
* Otherwise the request fails with the error that stands for what came instead: an error of the protocol,
  or, if the daemon is silent in the middle of a packet, that the time is over.
* Never are more bytes asked for at once than the longest name has. -/
theorem list_of_answers (remote : String) (w : Wire D S) :
    let s := directoryAnswer remote w
    let result := ((list remote).run w).1
    let left := ((list remote).run w).2.stream
    ((∃ files, result = .ok files) ↔
      ∃ (sent : List SentEntry) (words more : Bytes),
        (∀ entry ∈ sent, entry.name.length ≤ pathLimit) ∧ words.length = 16 ∧
        s.bytes = sent.flatMap SentEntry.packet ++ (PacketId.done.letters ++ words ++ more)) ∧
    (∃ sent r, DirectoryAnswers s sent r) ∧
    (∀ sent more, DirectoryAnswers s sent (.ok more) →
      result = .ok (sent.filterMap SentEntry.file?) ∧ left.bytes = more ∧
        left.ending = s.ending) ∧
    (∀ sent e, DirectoryAnswers s sent (.error e) → result = .error e) ∧
    (∀ e, result = .error e → (∃ detail, e = .protocol detail) ∨
      s.ending = .silent ∧ e = .timeout "reading from adb daemon") ∧
    (∃ sizes, Read.Asks listAnswer s sizes) ∧
    ∀ sizes, Read.Asks listAnswer s sizes → ∀ n ∈ sizes, n ≤ pathLimit := by
  intro s result left
  obtain ⟨hresult, hleft⟩ := list_run remote w
  have hok (sent more) (h : DirectoryAnswers s sent (.ok more)) :
      result = .ok (sent.filterMap SentEntry.file?) ∧ left.bytes = more ∧ left.ending = s.ending := by
    obtain ⟨s', hrun, hmore, hending⟩ := ends_listAnswer h
    rw [hrun] at hresult hleft
    have hstream : left = s' := hleft
    exact ⟨hresult, hstream ▸ hmore, hstream ▸ hending⟩
  have herror (sent e) (h : DirectoryAnswers s sent (.error e)) : result = .error e := by
    obtain ⟨stall, hstall, he⟩ := ends_listAnswer h
    rw [hstall] at hresult
    exact hresult.trans (congrArg Except.error he)
  obtain ⟨sent, r, h⟩ := exists_directoryAnswers s
  refine ⟨⟨?_, ?_⟩, ⟨sent, r, h⟩, hok, herror, ?_, ?_, fun _ => le_of_asks_listAnswer⟩
  · rintro ⟨files, hfiles⟩
    cases r with
    | error e => exact nomatch (herror sent e h).symm.trans hfiles
    | ok more =>
      obtain ⟨hsent, rest, hbytes, hend⟩ := h
      cases hend with
      | @done words hwords more => exact ⟨sent, words, more, hsent, hwords, hbytes⟩
  · rintro ⟨sent, words, more, hsent, hwords, hbytes⟩
    exact ⟨_, (hok sent more ⟨hsent, _, hbytes, .done hwords more⟩).1⟩
  · intro e he
    cases r with
    | ok more => exact nomatch (hok sent more h).1.symm.trans he
    | error e' =>
      obtain rfl := Except.error.inj ((herror sent e' h).symm.trans he)
      obtain ⟨-, rest, -, hend⟩ := h
      exact hend.error_cases
  · obtain ⟨sizes, hasks, -⟩ := asks_moreEntries [] s
    exact ⟨sizes, hasks⟩

/-- A directory of one file is listed, itself and the one above it being left out. -/
theorem list_of_oneFile :
    let sent : List SentEntry := [⟨0o40755, 0, 0, [46]⟩, ⟨0o40755, 0, 0, [46, 46]⟩,
      ⟨0o100644, 5, 7, [97, 255]⟩]
    let words : Bytes := List.replicate 16 0
    let answer := sent.flatMap SentEntry.packet ++ (PacketId.done.letters ++ words ++ [1, 2])
    let w : Wire Script Ending := ⟨.saying "" default, .closed, .ofBytes answer .closed⟩
    ((list "/sdcard").run w).1 = .ok [⟨"a\uFFFD", 0o100644, 5, 7⟩] := by
  intro sent words answer w
  obtain ⟨-, -, hok, -⟩ := list_of_answers "/sdcard" w
  have hanswer : DirectoryAnswers (directoryAnswer "/sdcard" w) sent (.ok [1, 2]) :=
    ⟨by decide, PacketId.done.letters ++ words ++ [1, 2], by decide, .done rfl [1, 2]⟩
  have hfiles : sent.filterMap SentEntry.file? = [⟨"a\uFFFD", 0o100644, 5, 7⟩] := by decide
  rw [(hok sent [1, 2] hanswer).1, hfiles]

end DebugBridge.Sync
