import DebugBridge.Proofs.Instrumentation.Steps

/-!
# A run is closed once

Two reports tell that a run is over: that it was stopped, and that it ended. No line of output makes a
reader give one of them (`Unended`). Closing a run gives one, as the last report, and a cancellation
that comes later gives no other.

Results:
* `Unended.lines`, a reader that has not told that the run is over has not done so after more lines;
* `closes_finish`, `closes_fail`, `closes_stop`, how the reports end when a run is closed;
* `stop_of_closed`, a closed run is not stopped.
-/

namespace DebugBridge

/-- Does a report tell that the run is over? -/
def RunReport.isTerminal : RunReport → Bool
  | .runStopped _ => true
  | .runEnded _ => true
  | _ => false

namespace RunReader

variable {p q : RunReader} {closed : Bool}

/-- No report tells that the run is over, though it may be `closed`; and a failure of the run that
counts as reported has been reported. -/
structure Unended (closed : Bool) (p : RunReader) : Prop where
  closed_eq : p.closed = closed
  reports : ∀ r ∈ p.reports, r.isTerminal = false
  failed : p.runFailed = true → ∃ message, RunReport.runFailed message ∈ p.reports

theorem unended_new : new.Unended false := ⟨rfl, by simp [new], by simp [new]⟩

/-! ## Reading lines -/

namespace Unended

/-- Only the reports and two flags matter. -/
theorem congr (h : p.Unended closed) (hclosed : q.closed = p.closed)
    (hfailed : q.runFailed = p.runFailed) (hreports : q.reports = p.reports) :
    q.Unended closed where
  closed_eq := hclosed.trans h.closed_eq
  reports := by rw [hreports]; exact h.reports
  failed := by rw [hfailed, hreports]; exact h.failed

theorem report (h : p.Unended closed) {r : RunReport} (hr : r.isTerminal = false) :
    (p.report r).Unended closed where
  closed_eq := h.closed_eq
  reports := by
    intro r' hmem
    rcases List.mem_append.1 hmem with hmem | hmem
    · exact h.reports r' hmem
    · rwa [List.mem_singleton.1 hmem]
  failed := fun hf =>
    let ⟨message, hmem⟩ := h.failed hf
    ⟨message, List.mem_append_left _ hmem⟩

theorem step (h : p.Unended closed) (hstep : Step p q) : q.Unended closed := by
  cases hstep with
  | quiet hreports _ hfailed hclosed => exact h.congr hclosed hfailed hreports
  | runStarted count => exact (h.report (r := .runStarted count) rfl).congr rfl rfl rfl
  | emptyRun => exact (h.report (r := .runStarted 0) rfl).congr rfl rfl rfl
  | runFailed message =>
    have hreport := h.report (r := .runFailed message) rfl
    exact ⟨hreport.closed_eq, hreport.reports,
      fun _ => ⟨message, List.mem_append_right _ (List.mem_singleton_self _)⟩⟩
  | testStarted test => exact (h.report (r := .testStarted test) rfl).congr rfl rfl rfl
  | testEnded test => exact (h.report (r := .testEnded test) rfl).congr rfl rfl rfl
  | testFailed kind test trace =>
    have hfailed := h.report (r := .testFailed kind test trace) rfl
    exact (hfailed.report (r := .testEnded test) rfl).congr rfl rfl rfl

theorem steps (h : p.Unended closed) (hsteps : Steps p q) : q.Unended closed :=
  hsteps.preserve (fun hstep hp => hp.step hstep) h

theorem lines (h : p.Unended closed) (batch : List String) : (p.lines batch).Unended closed :=
  h.steps (steps_lines p batch)

end Unended

/-! ## Before the last report -/

/-- A run that is being closed. -/
def closing (p : RunReader) : RunReader := { p with closed := true }.closeKey

/-- A run that is being ended, at the end of its output. -/
def finishing (p : RunReader) : RunReader :=
  let p := p.closing.ensureStarted
  if ! p.sawOutput then p.reportFailure noResults
  else if p.current.isSome || p.ended < p.expected then
    let message := s!"Test run incomplete. Expected {p.expected} tests, received {p.ended}"
    (p.abandonTest message).reportFailure message
  else p

/-- A run that is being ended, after its command has failed. -/
def failing (p : RunReader) (message : String) : RunReader :=
  ((p.closing.abandonTest message).ensureStarted).reportFailure message

theorem finish_of_open (h : p.closed = false) :
    p.finish = p.finishing.report (.runEnded p.finishing.elapsed) := by
  unfold finish
  rw [if_neg (by simp [h])]
  rfl

theorem fail_of_open (h : p.closed = false) (message : String) :
    p.fail message = (p.failing message).report (.runEnded (p.failing message).elapsed) := by
  unfold fail
  rw [if_neg (by simp [h])]
  rfl

theorem stop_of_open (h : p.closed = false) :
    p.stop = p.closing.report (.runStopped p.closing.elapsed) := by
  unfold stop
  rw [if_neg (by simp [h])]
  rfl

theorem finish_of_closed (h : p.closed = true) : p.finish = p := if_pos h

theorem fail_of_closed (h : p.closed = true) (message : String) : p.fail message = p := if_pos h

theorem stop_of_closed (h : p.closed = true) : p.stop = p := if_pos h

theorem steps_closing (p : RunReader) : Steps { p with closed := true } p.closing :=
  steps_closeKey _

/-- The end of a run begins with its start, if that has not been reported. -/
theorem steps_started_finishing (p : RunReader) :
    Steps p.closing.ensureStarted p.finishing := by
  unfold finishing
  dsimp only
  split_ifs
  · exact steps_reportFailure _ _
  · exact (steps_abandonTest _ _).trans (steps_reportFailure _ _)
  · exact .refl

theorem steps_finishing (p : RunReader) : Steps { p with closed := true } p.finishing :=
  (steps_closing p).trans ((steps_ensureStarted _).trans (steps_started_finishing p))

theorem steps_failing (p : RunReader) (message : String) :
    Steps { p with closed := true } (p.failing message) :=
  (steps_closing p).trans
    ((steps_abandonTest _ _).trans ((steps_ensureStarted _).trans (steps_reportFailure _ _)))

/-! ## Closing a run -/

/-- The last report of a closed run, and what goes for the reports before it. -/
structure Closes (last : RunReport) (p : RunReader) : Prop where
  closed : p.closed = true
  reports : ∃ before, p.reports = before ++ [last] ∧ ∀ r ∈ before, r.isTerminal = false

theorem Unended.closing (h : p.Unended false) : { p with closed := true }.Unended true :=
  ⟨rfl, h.reports, h.failed⟩

/-- A run that is being closed tells of the end last. -/
theorem Unended.closes (h : p.Unended true) (last : RunReport) : (p.report last).Closes last :=
  ⟨h.closed_eq, p.reports, rfl, h.reports⟩

theorem runFailed_reportFailure (p : RunReader) (message : String) :
    (p.reportFailure message).runFailed = true := by
  unfold RunReader.reportFailure
  split
  · assumption
  · rfl

/-- At the end of the output the last report is that the run has ended. -/
theorem closes_finish (h : p.Unended false) : ∃ elapsed, p.finish.Closes (.runEnded elapsed) := by
  rw [finish_of_open h.closed_eq]
  exact ⟨_, (h.closing.steps (steps_finishing p)).closes _⟩

/-- After a failure of the command the last report is that the run has ended, and a failure of the run
is reported before it. -/
theorem closes_fail (h : p.Unended false) (message : String) :
    (∃ elapsed, (p.fail message).Closes (.runEnded elapsed)) ∧
      ∃ told, RunReport.runFailed told ∈ (p.fail message).reports := by
  have hq := h.closing.steps (steps_failing p message)
  obtain ⟨told, htold⟩ := hq.failed (runFailed_reportFailure _ _)
  rw [fail_of_open h.closed_eq]
  exact ⟨⟨_, hq.closes _⟩, told, List.mem_append_left _ htold⟩

/-- After a cancellation the last report is that the run was stopped. -/
theorem closes_stop (h : p.Unended false) : ∃ elapsed, p.stop.Closes (.runStopped elapsed) := by
  rw [stop_of_open h.closed_eq]
  exact ⟨_, (h.closing.steps (steps_closing p)).closes _⟩

end RunReader

end DebugBridge
