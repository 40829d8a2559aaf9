import DebugBridge.Proofs.Text.Utf8
import DebugBridge.Shell.Command
import DebugBridge.Text.Lines
import DebugBridge.Wire.Script

/-!
# The output of a command, however it is cut

A receiver hears of the output of a command read by read, and the reads may cut it anywhere: inside a
line, between a carriage return and its line feed, inside a character. The log of a receiver
(`Receiver.logged`) is related to the bytes that were read so far (`Delivered`): the batches in it are
not empty and join to the terminated lines of these bytes. A read preserves the relation
(`Delivered.offer`, `Delivered.poll`), so it holds when the output ends, in each of the ways in which it
can end (`Ended`).

Results:
* `pump_logged`, a log changes nothing;
* `pump_ended`, what the log tells when the output has ended;
* `pump_batches`, a receiver that keeps its batches has all the lines;
* `run_of_grants`, what a receiver hears of a command that the daemon has granted.
-/

namespace DebugBridge.Shell

variable {σ : Type} {r : Receiver σ} {log : List Heard} {seen : Bytes} {reads : Nat}

/-! ## A log changes nothing -/

theorem pump_logged (r : Receiver σ) (sp : LineSplitter) (s : σ) (log : List Heard)
    (ending : Ending) (chunks : List Bytes) :
    pump r sp s ending chunks =
      ((pump r.logged sp (s, log) ending chunks).1.1, (pump r.logged sp (s, log) ending chunks).2) := by
  induction chunks generalizing sp s log with
  | nil =>
    cases ending with
    | silent => rfl
    | closed => cases hlast : sp.finish.1 <;>
      simp only [pump, hlast, Receiver.accept_logged, Receiver.flush_logged]
  | cons chunk chunks ih =>
    rcases hpoll : r.poll (r.offer s (sp.feed chunk).1) with ⟨stop, s'⟩
    simp only [pump, Receiver.offer_logged, Receiver.poll_logged, hpoll]
    cases stop with
    | true => rfl
    | false => exact ih _ _ _

/-! ## What has been delivered so far -/

/-- A log tells of the terminated lines of the bytes `seen`, in batches that are not empty, and of so
many `reads` after which the receiver did not want to stop. -/
structure Delivered (log : List Heard) (seen : Bytes) (reads : Nat) : Prop where
  lines : (Heard.batches log).flatten = terminatedLines seen
  filled : ∀ batch ∈ Heard.batches log, batch ≠ []
  polls : log.count (.polled false) = reads
  goesOn : Heard.polled true ∉ log
  unflushed : Heard.flushed ∉ log

theorem Delivered.nil : Delivered [] [] 0 where
  lines := rfl
  filled := fun _ h => absurd h List.not_mem_nil
  polls := rfl
  goesOn := List.not_mem_nil
  unflushed := List.not_mem_nil

/-- The log after a batch that is not empty. -/
theorem Delivered.batch (h : Delivered log seen reads) {lines : List String} {seen' : Bytes}
    (hne : lines ≠ []) (hlines : terminatedLines seen ++ lines = terminatedLines seen') :
    Delivered (log ++ [.batch lines]) seen' reads where
  lines := by simp [h.lines, ← hlines]
  filled := by
    intro batch hbatch
    rw [Heard.batches_append, List.mem_append] at hbatch
    rcases hbatch with hbatch | hbatch
    · exact h.filled batch hbatch
    · obtain rfl : batch = lines := by simpa using hbatch
      exact hne
  polls := by simp [h.polls]
  goesOn := by simp [h.goesOn]
  unflushed := by simp [h.unflushed]

/-- The log after a chunk has been read and its lines were offered. -/
theorem Delivered.offer (h : Delivered log seen reads) {sp : LineSplitter}
    (hsp : sp.pending = openLine seen) (chunk : Bytes) :
    Delivered (if (sp.feed chunk).1.isEmpty then log else log ++ [.batch (sp.feed chunk).1])
      (seen ++ chunk) reads := by
  have hlines := (LineSplitter.feed_of_openLine hsp chunk).1
  by_cases hempty : (sp.feed chunk).1 = []
  · rw [hempty, List.append_nil] at hlines
    rw [hempty, List.isEmpty_nil, if_pos rfl]
    exact { h with lines := h.lines.trans hlines }
  · rw [if_neg (by simpa using hempty)]
    exact h.batch hempty hlines

/-- The log after the receiver was asked and did not want to stop. -/
theorem Delivered.poll (h : Delivered log seen reads) :
    Delivered (log ++ [.polled false]) seen (reads + 1) where
  lines := by simpa using h.lines
  filled := by simpa using h.filled
  polls := by simp [h.polls]
  goesOn := by simp [h.goesOn]
  unflushed := by simp [h.unflushed]

/-! ## What has been delivered in the end -/

/-- What a log tells of output that has ended. The bytes `all` would have come, in so many `reads`. -/
def Ended (log : List Heard) (all : Bytes) (reads : Nat) (ending : Ending) : OutputEnd → Prop
  | .complete => ending = .closed ∧
      ∃ before, log = before ++ [.flushed] ∧ Heard.flushed ∉ before ∧ Heard.polled true ∉ before ∧
        before.count (.polled false) = reads ∧ (∀ batch ∈ Heard.batches before, batch ≠ []) ∧
        (Heard.batches before).flatten = linesOf all
  | .silent => ending = .silent ∧ Delivered log all reads
  | .cancelled =>
      ∃ before seen rest n, log = before ++ [.polled true] ∧ Delivered before seen n ∧
        all = seen ++ rest

theorem Delivered.finish (h : Delivered log seen reads) {sp : LineSplitter}
    (hsp : sp.pending = openLine seen) (s : σ) :
    Ended (pump r.logged sp (s, log) .closed []).1.2 seen reads .closed .complete := by
  have hall := LineSplitter.linesOf_of_openLine hsp
  cases hlast : sp.finish.1 with
  | none =>
    refine ⟨rfl, log, ?_, h.unflushed, h.goesOn, h.polls, h.filled, ?_⟩
    · simp only [pump, hlast]
      rfl
    · rw [hall, hlast, h.lines]
      exact (List.append_nil _).symm
  | some last =>
    refine ⟨rfl, log ++ [.batch [last]], ?_, ?_, ?_, ?_, ?_, ?_⟩
    · simp only [pump, hlast]
      rfl
    · simp [h.unflushed]
    · simp [h.goesOn]
    · simp [h.polls]
    · intro batch hbatch
      rw [Heard.batches_append, List.mem_append] at hbatch
      rcases hbatch with hbatch | hbatch
      · exact h.filled batch hbatch
      · obtain rfl : batch = [last] := by simpa using hbatch
        exact List.cons_ne_nil _ _
    · rw [hall, hlast, Heard.batches_append, List.flatten_append, h.lines]
      rfl

/-- Chunk by chunk, by induction on the chunks that are still to be read: the log is related to the
bytes before them, and the splitter holds back the open line of these bytes. -/
theorem pump_ended (r : Receiver σ) {sp : LineSplitter} (hsp : sp.pending = openLine seen)
    (h : Delivered log seen reads) (s : σ) (ending : Ending) (chunks : List Bytes) :
    Ended (pump r.logged sp (s, log) ending chunks).1.2 (seen ++ chunks.flatten)
      (reads + chunks.length) ending (pump r.logged sp (s, log) ending chunks).2 := by
  induction chunks generalizing sp s log seen reads with
  | nil =>
    rw [List.flatten_nil, List.append_nil, List.length_nil, Nat.add_zero]
    cases ending with
    | silent => exact ⟨rfl, h⟩
    | closed => exact h.finish hsp s
  | cons chunk chunks ih =>
    obtain ⟨-, hopen⟩ := LineSplitter.feed_of_openLine hsp chunk
    have hoffer := h.offer hsp chunk
    rcases hpoll : r.poll (r.offer s (sp.feed chunk).1) with ⟨stop, s'⟩
    rw [List.flatten_cons, ← List.append_assoc]
    simp only [pump, Receiver.offer_logged, Receiver.poll_logged, hpoll]
    cases stop with
    | true => exact ⟨_, _, _, _, rfl, hoffer, rfl⟩
    | false =>
      have := ih hopen hoffer.poll s'
      rwa [Nat.add_assoc, Nat.add_comm 1] at this

theorem Ended.filled {all : Bytes} {ending : Ending} {out : OutputEnd}
    (h : Ended log all reads ending out) : ∀ batch ∈ Heard.batches log, batch ≠ [] := by
  cases out with
  | complete =>
    obtain ⟨-, before, rfl, -, -, -, hfilled, -⟩ := h
    simpa using hfilled
  | silent => exact h.2.filled
  | cancelled =>
    obtain ⟨before, seen, rest, n, rfl, hdelivered, -⟩ := h
    simpa using hdelivered.filled

theorem Ended.of_closed {all : Bytes} {out : OutputEnd} (h : Ended log all reads .closed out)
    (hgoesOn : Heard.polled true ∉ log) :
    out = .complete ∧ (Heard.batches log).flatten = linesOf all ∧
      log.count (.polled false) = reads ∧
      ∃ before, log = before ++ [.flushed] ∧ Heard.flushed ∉ before := by
  cases out with
  | complete =>
    obtain ⟨-, before, rfl, hunflushed, -, hpolls, -, hlines⟩ := h
    exact ⟨rfl, by simpa using hlines, by simpa using hpolls, before, rfl, hunflushed⟩
  | silent => cases h.1
  | cancelled =>
    obtain ⟨before, seen, rest, n, rfl, -, -⟩ := h
    simp at hgoesOn

theorem Ended.of_silent {all : Bytes} {out : OutputEnd} (h : Ended log all reads .silent out)
    (hgoesOn : Heard.polled true ∉ log) : out = .silent ∧ Delivered log all reads := by
  cases out with
  | complete => cases h.1
  | silent => exact ⟨rfl, h.2⟩
  | cancelled =>
    obtain ⟨before, seen, rest, n, rfl, -, -⟩ := h
    simp at hgoesOn

theorem Ended.of_stop {all : Bytes} {ending : Ending} {out : OutputEnd}
    (h : Ended log all reads ending out) (hstop : Heard.polled true ∈ log) :
    out = .cancelled ∧ (Heard.batches log).flatten <+: linesOf all ∧ Heard.flushed ∉ log := by
  cases out with
  | complete =>
    obtain ⟨-, before, rfl, -, hgoesOn, -⟩ := h
    simp [hgoesOn] at hstop
  | silent => exact absurd hstop h.2.goesOn
  | cancelled =>
    obtain ⟨before, seen, rest, n, rfl, hdelivered, rfl⟩ := h
    refine ⟨rfl, ?_, by simp [hdelivered.unflushed]⟩
    rw [Heard.batches_append, Heard.batches_polled, List.append_nil, hdelivered.lines]
    exact (terminatedLines_prefix_append seen rest).trans (terminatedLines_prefix_linesOf _)

/-! ## Receivers that keep what they get -/

theorem flatten_offer_batches (done : List (List String)) (lines : List String) :
    (Receiver.batches.offer done lines).flatten = done.flatten ++ lines := by
  unfold Receiver.offer
  split
  · rename_i hempty
    rw [List.isEmpty_iff.1 hempty, List.append_nil]
  · show (done ++ [lines]).flatten = _
    rw [List.flatten_append, List.flatten_singleton]

/-- Batches that are kept join to the lines of the output, by induction on the chunks that are still to
be read. -/
theorem pump_batches {sp : LineSplitter} (hsp : sp.pending = openLine seen)
    {done : List (List String)} (hdone : done.flatten = terminatedLines seen) (chunks : List Bytes) :
    ∃ all, pump .batches sp done .closed chunks = (all, .complete) ∧
      all.flatten = linesOf (seen ++ chunks.flatten) := by
  induction chunks generalizing sp done seen with
  | nil =>
    have hall := LineSplitter.linesOf_of_openLine hsp
    rw [List.flatten_nil, List.append_nil, hall, ← hdone]
    cases hlast : sp.finish.1 with
    | none => exact ⟨done, by simp only [pump, hlast]; rfl, by simp⟩
    | some last => exact ⟨done ++ [[last]], by simp only [pump, hlast]; rfl, by simp⟩
  | cons chunk chunks ih =>
    obtain ⟨hlines, hopen⟩ := LineSplitter.feed_of_openLine hsp chunk
    rw [List.flatten_cons, ← List.append_assoc]
    have hoffer := flatten_offer_batches done (sp.feed chunk).1
    rw [hdone, hlines] at hoffer
    exact ih hopen hoffer

/-- No line of an output has a line feed. -/
theorem newline_not_mem_of_mem_linesOf {b : Bytes} {line : String} (h : line ∈ linesOf b) :
    '\n' ∉ line.toList := by
  have hdecode : ∀ piece ∈ b.splitOn 10, '\n' ∉ (decodeLine piece).toList := by
    intro piece hpiece
    have hfeed : 10 ∉ piece := Text.not_mem_of_mem_splitOn hpiece
    refine Utf8.newline_not_mem_lossy ?_
    split
    · exact fun hmem => hfeed (List.dropLast_subset _ hmem)
    · exact hfeed
  rcases List.mem_append.1 h with h | h
  · obtain ⟨piece, hpiece, rfl⟩ := List.mem_map.1 h
    exact hdecode piece (List.dropLast_subset _ hpiece)
  · split at h
    · cases h
    · obtain rfl := List.mem_singleton.1 h
      have hne := List.splitOn_ne_nil 10 b
      rw [openLine, List.getLast?_eq_some_getLast hne]
      exact hdecode _ (List.getLast_mem hne)

/-! ## A command that the daemon has granted -/

/-- How a command ends after the daemon's consent. -/
theorem run_eq_pump {D S : Type} [Daemon D S] {d : D} {serial command : String} {output : Stream}
    (hgrant : Net.Grants d (service serial command) output) (limit : Duration) (r : Receiver σ)
    (s : σ) :
    (run serial command limit r s d).1 =
      ((pump r .empty s output.ending (output.reads readSize)).1,
        (pump r .empty s output.ending (output.reads readSize)).2.result command limit) := by
  obtain ⟨session, d', hconverse⟩ := Net.converse_of_grants hgrant serial
  simp only [run, hconverse]

/-- **Main theorem.** The daemon grants a command and what it sends then comes in the reads `chunks`.
Whatever the receiver does, it ends in the same state with a log of what it hears as without, and no
batch is empty.
* If it never answered that it wants to stop and the daemon has closed, the command succeeds, all lines
  were delivered, the receiver was asked after each read, and was flushed once and last.
* If it never answered so and the daemon stays silent for longer than allowed, the command fails, the
  terminated lines were delivered, and the receiver was not flushed.
* If it has answered so, the command succeeds, some lines in front were delivered, and the receiver was
  not flushed.

The reads can be any non-empty byte strings of at most `readSize` bytes (`Stream.exists_reads_iff`). -/
theorem run_of_grants {D S : Type} [Daemon D S] {d : D} {serial command : String} {output : Stream}
    (hgrant : Net.Grants d (service serial command) output) {chunks : List Bytes}
    (hreads : output.reads readSize = chunks) (limit : Duration) (r : Receiver σ) (s : σ) :
    ∃ s' log result, (run serial command limit r.logged (s, []) d).1 = ((s', log), result) ∧
      (run serial command limit r s d).1 = (s', result) ∧
      (∀ batch ∈ Heard.batches log, batch ≠ []) ∧
      (Heard.polled true ∉ log → output.ending = .closed →
        result = .ok () ∧ (Heard.batches log).flatten = linesOf chunks.flatten ∧
        log.count (.polled false) = chunks.length ∧
        ∃ before, log = before ++ [.flushed] ∧ Heard.flushed ∉ before) ∧
      (Heard.polled true ∉ log → output.ending = .silent → limit ≠ .zero →
        result = .error (.failed (.shellUnresponsive command limit)) ∧
        (Heard.batches log).flatten = terminatedLines chunks.flatten ∧
        log.count (.polled false) = chunks.length ∧ Heard.flushed ∉ log) ∧
      (Heard.polled true ∈ log →
        result = .ok () ∧ (Heard.batches log).flatten <+: linesOf chunks.flatten ∧
        Heard.flushed ∉ log) := by
  subst hreads
  have hplain := run_eq_pump hgrant limit r s
  have hlogged := run_eq_pump hgrant limit r.logged (s, [])
  have hsp : LineSplitter.empty.pending = openLine [] := rfl
  have hended := pump_ended r hsp Delivered.nil s output.ending (output.reads readSize)
  rw [pump_logged r .empty s [] output.ending] at hplain
  rw [List.nil_append, Nat.zero_add] at hended
  rcases hout : pump r.logged .empty (s, []) output.ending (output.reads readSize) with
    ⟨⟨s', log⟩, out⟩
  rw [hout] at hplain hlogged hended
  refine ⟨s', log, _, hlogged, hplain, hended.filled, ?_, ?_, ?_⟩
  · intro hgoesOn hclosed
    rw [hclosed] at hended
    obtain ⟨rfl, hlines, hpolls, hflushed⟩ := hended.of_closed hgoesOn
    exact ⟨rfl, hlines, hpolls, hflushed⟩
  · intro hgoesOn hsilent hlimit
    rw [hsilent] at hended
    obtain ⟨rfl, h⟩ := hended.of_silent hgoesOn
    exact ⟨if_neg hlimit, h.lines, h.polls, h.unflushed⟩
  · intro hstop
    obtain ⟨rfl, hlines, hunflushed⟩ := hended.of_stop hstop
    exact ⟨rfl, hlines, hunflushed⟩

/-- Output that is cut inside the end of a line and inside a character. -/
def cutChunks : List Bytes := [Bytes.ofString "one\r", Bytes.ofString "\ntwo" ++ [0xC3], [0xA9]]

theorem run_of_grants_cutChunks :
    let d := Script.saying "" ⟨okayToken, cutChunks, .closed⟩
    let output : Stream := ⟨[], cutChunks ++ [[]], .closed⟩
    Net.Grants d (service "s" "ls") output ∧ output.reads readSize = cutChunks ∧
      ∃ s' log result,
        (run "s" "ls" .zero Receiver.collecting.logged ([], []) d).1 = ((s', log), result) ∧
        (Heard.polled true ∉ log →
          result = .ok () ∧ (Heard.batches log).flatten = ["one", "twoé"]) := by
  intro d output
  have hgrant : Net.Grants d (service "s" "ls") output := ⟨_, _, rfl, rfl, by decide⟩
  have hreads : output.reads readSize = cutChunks := by
    rw [Stream.reads_append_nil]
    exact Stream.reads_of_chunks (by decide) .closed
  obtain ⟨s', log, result, hrun, -, -, hclosed, -, -⟩ :=
    run_of_grants hgrant hreads .zero .collecting []
  have hlines : linesOf cutChunks.flatten = ["one", "twoé"] := by decide
  refine ⟨hgrant, hreads, s', log, result, hrun, fun hgoesOn => ?_⟩
  obtain ⟨hresult, hdelivered, -⟩ := hclosed hgoesOn rfl
  exact ⟨hresult, hdelivered.trans hlines⟩

end DebugBridge.Shell
