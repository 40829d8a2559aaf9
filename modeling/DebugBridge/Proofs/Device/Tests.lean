import DebugBridge.Device.Tests
import DebugBridge.Proofs.Device.Commands
import DebugBridge.Proofs.Instrumentation.Closing
import DebugBridge.Wire.Script

/-!
# A test run tells once that it is over

The reader of a run can be closed in three places: when the output is complete, when the command has
failed, and when the run looks once more after a command that has ended well. Which of them closes it
depends on how the output ends and on when the cancellation is noticed (`TestRun.Left`).

A run of a command that may be silent for ever has no result if the daemon grants the command and then
stays silent, unless a cancellation is noticed after a read before (`Device.RunWaits`). Every other run
tells once and last that it is over (`Device.RunClosed`).

Results:
* `TestRun.left_pump`, what a run has become when the output has ended;
* `Device.runTests_closed`, what a run reports, and which runs have no result.
-/

namespace DebugBridge

open Shell

/-! ## Looking whether a run is cancelled -/

namespace TestRun

variable {t t' u : TestRun}

theorem look_of_zero (h : t.untilCancelled = some 0) :
    t.look = (true, { t with reader := t.reader.cancel }) := by
  unfold look
  rw [h]

/-- A look that notices nothing is one look fewer until the cancellation is noticed. -/
theorem look_of_ne_zero (h : t.untilCancelled ≠ some 0) :
    ∃ left, t.look = (false, ⟨t.reader, left⟩) ∧ t.untilCancelled = left.map (· + 1) := by
  obtain ⟨reader, untilCancelled⟩ := t
  cases untilCancelled with
  | none => exact ⟨none, rfl, rfl⟩
  | some n =>
    cases n with
    | zero => exact absurd rfl h
    | succ n => exact ⟨some n, rfl, rfl⟩

/-! ## Reading the output of a run -/

theorem unended_offer (h : t.reader.Unended false) (lines : List String) :
    (receiver.offer t lines).reader.Unended false := by
  unfold Receiver.offer
  split
  · exact h
  · exact h.lines lines

theorem untilCancelled_offer (t : TestRun) (lines : List String) :
    (receiver.offer t lines).untilCancelled = t.untilCancelled := by
  unfold Receiver.offer
  split <;> rfl

/-- Is a cancellation noticed after one of so many reads? -/
def Notices (t : TestRun) (reads : Nat) : Prop := ∃ n, t.untilCancelled = some n ∧ n < reads

theorem not_notices {reads : Nat} :
    ¬ t.Notices reads ↔ ∀ n, t.untilCancelled = some n → reads ≤ n := by
  simp [Notices]

theorem notices_succ (h : t.untilCancelled = u.untilCancelled.map (· + 1)) (reads : Nat) :
    t.Notices (reads + 1) ↔ u.Notices reads := by
  unfold Notices
  rw [h]
  cases u.untilCancelled <;> simp

/-- What has become of a run `t` when its output has ended, which would come in so many reads. -/
def Left (t t' : TestRun) (reads : Nat) (ending : Ending) : OutputEnd → Prop
  | .complete => ending = .closed ∧ ¬ t.Notices reads ∧
      ∃ p : RunReader, p.Unended false ∧ t'.reader = p.finish
  | .cancelled => t.Notices reads ∧ t'.untilCancelled = some 0 ∧ t'.reader.Unended false
  | .silent => ending = .silent ∧ ¬ t.Notices reads ∧ t'.reader.Unended false

/-- What has become of a run that notices nothing in the first of the reads. -/
theorem Left.cons {reads : Nat} {ending : Ending} {out : OutputEnd}
    (h : Left u t' reads ending out) (hu : t.untilCancelled = u.untilCancelled.map (· + 1)) :
    Left t t' (reads + 1) ending out := by
  have hnotices := notices_succ hu reads
  cases out with
  | complete => exact ⟨h.1, mt hnotices.1 h.2.1, h.2.2⟩
  | cancelled => exact ⟨hnotices.2 h.1, h.2⟩
  | silent => exact ⟨h.1, mt hnotices.1 h.2.1, h.2.2⟩

/-- The end of the output is silence just if nothing else ends it. -/
theorem Left.eq_silent_iff {reads : Nat} {ending : Ending} {out : OutputEnd}
    (h : Left t t' reads ending out) : out = .silent ↔ ending = .silent ∧ ¬ t.Notices reads := by
  cases out with
  | complete => simp [h.1]
  | cancelled => simp [h.1]
  | silent => simp [h.1, h.2.1]

/-- By induction on the reads that are still to come, each of which uses up one look: until the output
has ended, nothing has told that the run is over. -/
theorem left_pump (h : t.reader.Unended false) (sp : LineSplitter) (ending : Ending)
    (chunks : List Bytes) :
    Left t (pump receiver sp t ending chunks).1 chunks.length ending
      (pump receiver sp t ending chunks).2 := by
  induction chunks generalizing sp t with
  | nil =>
    have hnotices : ¬ t.Notices 0 := fun ⟨_, _, hn⟩ => Nat.not_lt_zero _ hn
    cases ending with
    | silent => exact ⟨rfl, hnotices, h⟩
    | closed =>
      refine ⟨rfl, hnotices, ?_⟩
      cases hlast : sp.finish.1 with
      | none => exact ⟨t.reader, h, by simp only [pump, hlast]; rfl⟩
      | some last => exact ⟨_, h.lines [last], by simp only [pump, hlast]; rfl⟩
  | cons chunk chunks ih =>
    have hoffer := unended_offer h (sp.feed chunk).1
    have huntil := untilCancelled_offer t (sp.feed chunk).1
    have hpoll : receiver.poll (receiver.offer t (sp.feed chunk).1) =
      (receiver.offer t (sp.feed chunk).1).look := rfl
    simp only [pump, hpoll]
    generalize receiver.offer t (sp.feed chunk).1 = u at hoffer huntil
    by_cases hzero : u.untilCancelled = some 0
    · rw [look_of_zero hzero]
      exact ⟨⟨0, huntil ▸ hzero, Nat.succ_pos _⟩, hzero, hoffer.congr rfl rfl rfl⟩
    · obtain ⟨left, hlook, hleft⟩ := look_of_ne_zero hzero
      rw [hlook]
      exact (ih (t := ⟨u.reader, left⟩) hoffer _).cons (huntil.symm.trans hleft)

/-! ## Closing a run -/

theorem close_of_zero (h : t.untilCancelled = some 0) :
    t.close (.ok ()) = t.reader.cancel.stop := by
  simp only [close, look_of_zero h]

theorem close_of_ne_zero (h : t.untilCancelled ≠ some 0) : t.close (.ok ()) = t.reader := by
  obtain ⟨left, hlook, -⟩ := look_of_ne_zero h
  simp only [close, hlook]

/-- A run that is closed when its command has ended well is left alone. -/
theorem reports_close_of_closed (h : t.reader.closed = true) :
    (t.close (.ok ())).reports = t.reader.reports := by
  have hcancel : t.reader.cancel.closed = true := h
  by_cases hzero : t.untilCancelled = some 0
  · rw [close_of_zero hzero, RunReader.stop_of_closed hcancel]
    rfl
  · rw [close_of_ne_zero hzero]

/-- A run whose output was complete has told that it ended. -/
theorem closes_of_complete {p : RunReader} (h : p.Unended false) (ht : t.reader = p.finish) :
    ∃ before elapsed, (t.close (.ok ())).reports = before ++ [.runEnded elapsed] ∧
      ∀ r ∈ before, r.isTerminal = false := by
  obtain ⟨elapsed, hclosed, before, hreports, hbefore⟩ := RunReader.closes_finish h
  rw [← ht] at hclosed hreports
  exact ⟨before, elapsed, (reports_close_of_closed hclosed).trans hreports, hbefore⟩

/-- A run that stopped reading because it was cancelled tells that it was stopped. -/
theorem closes_of_cancelled (h : t.reader.Unended false) (ht : t.untilCancelled = some 0) :
    ∃ before elapsed, (t.close (.ok ())).reports = before ++ [.runStopped elapsed] ∧
      ∀ r ∈ before, r.isTerminal = false := by
  have hcancel : t.reader.cancel.Unended false := h.congr rfl rfl rfl
  obtain ⟨elapsed, -, before, hreports, hbefore⟩ := RunReader.closes_stop hcancel
  rw [close_of_zero ht]
  exact ⟨before, elapsed, hreports, hbefore⟩

/-- A run whose command failed tells of the failure, and then that it ended. -/
theorem closes_of_error (h : t.reader.Unended false) (e : Error) :
    ∃ before elapsed message, (t.close (.error e)).reports = before ++ [.runEnded elapsed] ∧
      (∀ r ∈ before, r.isTerminal = false) ∧ RunReport.runFailed message ∈ before := by
  obtain ⟨⟨elapsed, -, before, hreports, hbefore⟩, message, hmem⟩ :=
    RunReader.closes_fail h e.message
  refine ⟨before, elapsed, message, hreports, hbefore, ?_⟩
  rw [hreports, List.mem_append] at hmem
  exact hmem.resolve_right (by simp)

end TestRun

/-! ## Runs -/

namespace Device

variable {D S : Type} [Daemon D S] {d : Device} {site : Site D} {output : Stream}

theorem runTests_eq (d : Device) (request : RunRequest) (untilCancelled : Option Nat)
    (site : Site D) :
    (d.runTests request untilCancelled site).1 =
      (d.shell request.command request.limit TestRun.receiver ⟨.new, untilCancelled⟩ site).1.map
        fun x => ((x.1.close x.2).reports, x.2) :=
  congrArg Prod.fst (Desk.map_apply
    (fun x : TestRun × Except Error Unit => ((x.1.close x.2).reports, x.2)) _ site)

/-- A run waits for ever: its command may be silent for ever, the daemon grants it and then stays
silent, and no cancellation is noticed after a read before. -/
def RunWaits (d : Device) (request : RunRequest) (untilCancelled : Option Nat) (site : Site D) :
    Prop :=
  request.limit = .zero ∧ ∃ output, d.Runs request.command site output ∧ output.ending = .silent ∧
    ∀ n, untilCancelled = some n → (output.reads readSize).length ≤ n

/-- What a run that came to `result` has reported. -/
structure RunClosed (d : Device) (request : RunRequest) (untilCancelled : Option Nat) (site : Site D)
    (reports : List RunReport) (result : Except Error Unit) : Prop where
  /-- That the run is over is told once and last. -/
  once : ∃ before last, reports = before ++ [last] ∧ last.isTerminal = true ∧
    ∀ r ∈ before, r.isTerminal = false
  /-- Only a run that noticed after a read that it was cancelled was stopped. -/
  stopped : ∀ elapsed, .runStopped elapsed ∈ reports → ∃ n output, untilCancelled = some n ∧
    d.Runs request.command site output ∧ n < (output.reads readSize).length
  /-- An error is told as a failure of the run before the run ends. -/
  failed : ∀ e, result = .error e → ∃ before elapsed message,
    reports = before ++ [.runEnded elapsed] ∧ .runFailed message ∈ before
  /-- A run that was not cancelled and met no error has ended. -/
  ended : result = .ok () → untilCancelled = none → ∃ elapsed, .runEnded elapsed ∈ reports

variable {request : RunRequest} {untilCancelled : Option Nat} {reports before : List RunReport}
  {elapsed : Nat}

theorem RunClosed.of_ended {result : Except Error Unit}
    (hbefore : ∀ r ∈ before, r.isTerminal = false)
    (hfailed : ∀ e, result = .error e → ∃ message, .runFailed message ∈ before) :
    d.RunClosed request untilCancelled site (before ++ [.runEnded elapsed]) result where
  once := ⟨before, _, rfl, rfl, hbefore⟩
  stopped := by
    intro elapsed' hmem
    rcases List.mem_append.1 hmem with hmem | hmem
    · exact absurd (hbefore _ hmem) (by simp [RunReport.isTerminal])
    · exact absurd (List.mem_singleton.1 hmem) (by simp)
  failed := fun e he =>
    let ⟨message, hmem⟩ := hfailed e he
    ⟨before, elapsed, message, rfl, hmem⟩
  ended := fun _ _ => ⟨elapsed, List.mem_append_right _ (List.mem_singleton_self _)⟩

theorem RunClosed.of_stopped {n : Nat} (hbefore : ∀ r ∈ before, r.isTerminal = false)
    (hruns : d.Runs request.command site output) (hn : n < (output.reads readSize).length) :
    d.RunClosed request (some n) site (before ++ [.runStopped elapsed]) (.ok ()) where
  once := ⟨before, _, rfl, rfl, hbefore⟩
  stopped := fun _ _ => ⟨n, output, rfl, hruns, hn⟩
  failed := by simp
  ended := by simp

theorem runClosed_of_error {t : TestRun} (h : t.reader.Unended false) (e : Error) :
    d.RunClosed request untilCancelled site (t.close (.error e)).reports (.error e) := by
  obtain ⟨before, elapsed, message, hreports, hbefore, hmem⟩ := TestRun.closes_of_error h e
  rw [hreports]
  exact .of_ended hbefore fun _ _ => ⟨message, hmem⟩

/-- What becomes of a run that reads some output. -/
theorem left_output (output : Stream) (untilCancelled : Option Nat) :
    TestRun.Left ⟨.new, untilCancelled⟩
      (pump TestRun.receiver .empty ⟨.new, untilCancelled⟩ output.ending
        (output.reads readSize)).1 (output.reads readSize).length output.ending
      (pump TestRun.receiver .empty ⟨.new, untilCancelled⟩ output.ending
        (output.reads readSize)).2 :=
  TestRun.left_pump RunReader.unended_new _ _ _

theorem runTests_eq_none_of_runs (hruns : d.Runs request.command site output)
    (untilCancelled : Option Nat) :
    (d.runTests request untilCancelled site).1 = none ↔
      request.limit = .zero ∧ output.ending = .silent ∧
        ∀ n, untilCancelled = some n → (output.reads readSize).length ≤ n := by
  have hsilent := (left_output output untilCancelled).eq_silent_iff
  rw [TestRun.not_notices] at hsilent
  rw [← hsilent, runTests_eq, shell_of_runs hruns]
  generalize (pump TestRun.receiver .empty ⟨.new, untilCancelled⟩ output.ending
    (output.reads readSize)).2 = out
  cases out with
  | complete => simp [OutputEnd.result]
  | cancelled => simp [OutputEnd.result]
  | silent => by_cases hlimit : request.limit = .zero <;> simp [OutputEnd.result, hlimit]

/-- A run whose command runs and has a result, by how the output ends. -/
theorem runClosed_of_runs (hruns : d.Runs request.command site output)
    {result : Except Error Unit}
    (hsome : (d.runTests request untilCancelled site).1 = some (reports, result)) :
    d.RunClosed request untilCancelled site reports result := by
  have hleft := left_output output untilCancelled
  rw [runTests_eq, shell_of_runs hruns] at hsome
  generalize pump TestRun.receiver .empty ⟨.new, untilCancelled⟩ output.ending
    (output.reads readSize) = left at hleft hsome
  obtain ⟨t, out⟩ := left
  cases out with
  | complete =>
    obtain ⟨-, -, p, hp, ht⟩ := hleft
    obtain ⟨before, elapsed, hreports, hbefore⟩ := TestRun.closes_of_complete hp ht
    cases hsome
    rw [hreports]
    exact .of_ended hbefore (by simp)
  | cancelled =>
    obtain ⟨⟨n, rfl, hlt⟩, hzero, ht⟩ := hleft
    obtain ⟨before, elapsed, hreports, hbefore⟩ := TestRun.closes_of_cancelled ht hzero
    cases hsome
    rw [hreports]
    exact .of_stopped hbefore hruns hlt
  | silent =>
    obtain ⟨-, -, ht⟩ := hleft
    by_cases hlimit : request.limit = .zero
    · simp [OutputEnd.result, hlimit] at hsome
    · simp only [OutputEnd.result, if_neg hlimit, Option.map_some, Option.some.injEq] at hsome
      cases hsome
      exact runClosed_of_error ht _

/-- A run whose command does not run has a result at once. -/
theorem runClosed_of_not_runs (h : ∀ output, ¬ d.Runs request.command site output)
    (untilCancelled : Option Nat) :
    ∃ reports result, (d.runTests request untilCancelled site).1 = some (reports, result) ∧
      d.RunClosed request untilCancelled site reports result := by
  obtain ⟨e, hshell⟩ := shell_of_not_runs h request.limit TestRun.receiver ⟨.new, untilCancelled⟩
  rw [runTests_eq, hshell]
  exact ⟨_, _, rfl, runClosed_of_error RunReader.unended_new e⟩

theorem runTests_eq_none_iff (d : Device) (request : RunRequest) (untilCancelled : Option Nat)
    (site : Site D) :
    (d.runTests request untilCancelled site).1 = none ↔
      d.RunWaits request untilCancelled site := by
  constructor
  · intro hnone
    by_cases hruns : ∃ output, d.Runs request.command site output
    · obtain ⟨output, hruns⟩ := hruns
      obtain ⟨hlimit, hwaits⟩ := (runTests_eq_none_of_runs hruns untilCancelled).1 hnone
      exact ⟨hlimit, output, hruns, hwaits⟩
    · obtain ⟨reports, result, hsome, -⟩ :=
        runClosed_of_not_runs (not_exists.1 hruns) untilCancelled
      rw [hnone] at hsome
      cases hsome
  · rintro ⟨hlimit, output, hruns, hwaits⟩
    exact (runTests_eq_none_of_runs hruns untilCancelled).2 ⟨hlimit, hwaits⟩

/-- A run that waits for ever has not told that it is over. -/
theorem unended_of_runWaits (h : d.RunWaits request untilCancelled site) :
    ∀ r ∈ (run d.serial request.command request.limit TestRun.receiver ⟨.new, untilCancelled⟩
      site.daemon).1.1.reader.reports, r.isTerminal = false := by
  obtain ⟨-, output, hruns, hwaits⟩ := h
  have hleft := left_output output untilCancelled
  rw [run_of_runs hruns]
  have hsilent := hleft.eq_silent_iff.2 ⟨hwaits.1, TestRun.not_notices.2 hwaits.2⟩
  rw [hsilent] at hleft
  exact hleft.2.2.reports

/-- **Main theorem.** Whatever the registry holds, whatever the daemon answers and however that is cut
into reads, and whenever the run is cancelled: a run that has a result has told once and last that it is
over (`RunClosed`). The runs without a result are those that wait for ever, and these have not told that
they are over. -/
theorem runTests_closed (d : Device) (request : RunRequest) (untilCancelled : Option Nat)
    (site : Site D) :
    (∀ reports result, (d.runTests request untilCancelled site).1 = some (reports, result) →
      d.RunClosed request untilCancelled site reports result) ∧
    ((d.runTests request untilCancelled site).1 = none ↔
      d.RunWaits request untilCancelled site) ∧
    (d.RunWaits request untilCancelled site →
      ∀ r ∈ (run d.serial request.command request.limit TestRun.receiver ⟨.new, untilCancelled⟩
        site.daemon).1.1.reader.reports, r.isTerminal = false) := by
  refine ⟨fun reports result hsome => ?_, runTests_eq_none_iff d request untilCancelled site,
    unended_of_runWaits⟩
  by_cases hruns : ∃ output, d.Runs request.command site output
  · obtain ⟨output, hruns⟩ := hruns
    exact runClosed_of_runs hruns hsome
  · obtain ⟨reports', result', hsome', hclosed⟩ :=
      runClosed_of_not_runs (not_exists.1 hruns) untilCancelled
    rw [hsome] at hsome'
    cases hsome'
    exact hclosed

/-- A known and usable device, and a daemon that grants every request and then stays silent. -/
def silentSite : Site Script :=
  ⟨(Registry.empty.applyList [⟨"s", .online⟩]).registry, .saying "" ⟨okayToken, [], .silent⟩,
    .empty, .zero⟩

/-- A run has no result, and does not tell that it is over, if the device stays silent. -/
theorem runTests_silentSite :
    (runTests ⟨"s"⟩ (.new "com.test" none) none silentSite).1 = none ∧
      ∀ r ∈ (run "s" (RunRequest.new "com.test" none).command .zero TestRun.receiver ⟨.new, none⟩
        silentSite.daemon).1.1.reader.reports, r.isTerminal = false := by
  have hgrant : Net.Grants silentSite.daemon
      (service "s" (RunRequest.new "com.test" none).command) ⟨[], [], .silent⟩ :=
    ⟨_, _, rfl, rfl, by decide⟩
  have hwaits : RunWaits ⟨"s"⟩ (.new "com.test" none) none silentSite :=
    ⟨rfl, _, runs_of_grants rfl hgrant, rfl, by simp⟩
  exact ⟨(runTests_eq_none_iff _ _ _ _).2 hwaits, unended_of_runWaits hwaits⟩

example : (runTests ⟨"t"⟩ (.new "com.test" none) none silentSite).1 =
    some ([.runStarted 0, .runFailed (Error.deviceNotFound "t").message, .runEnded 0],
      .error (.deviceNotFound "t")) := rfl

end Device

end DebugBridge
