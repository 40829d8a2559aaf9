import DebugBridge.Proofs.Instrumentation.Closing

/-!
# Whatever is asked of a reader

A reader may be called in any order: lines may come after the run is closed, and a run may be closed
again and again. Still it starts once at most and fails once at most, and it is over once, from the
first call on that closes it. A call that ends a run fails the test that is open.

Results:
* `Lawful.perform`: what every call preserves;
* `breaksOff_finishing`, `breaksOff_failing`: a test that is open does not stay so;
* `performAll_lawful`: what goes for all histories.
-/

namespace DebugBridge

namespace RunReader

variable {p q : RunReader}

/-! ## Every call -/

/-- No step tells that the run is over. -/
theorem Steps.countP_isTerminal (h : Steps p q) :
    q.reports.countP (·.isTerminal) = p.reports.countP (·.isTerminal) := by
  refine h.preserve (P := fun q => q.reports.countP (·.isTerminal) =
    p.reports.countP (·.isTerminal)) (fun hstep hp => ?_) rfl
  rw [← hp]
  cases hstep with
  | quiet hreports => rw [hreports]
  | testFailed => exact List.countP_append.trans (congrArg (· + 0) List.countP_append)
  | _ => exact List.countP_append

theorem perform_of_closed (h : p.closed = true) {call : RunCall} (hcall : call.isClosing = true) :
    p.perform call = p := by
  cases call with
  | fail message => exact fail_of_closed h message
  | finish => exact finish_of_closed h
  | stop => exact stop_of_closed h
  | _ => cases hcall

/-- A call closes an open run in some steps, of which the last is to tell that it is over. -/
theorem perform_of_open (h : p.closed = false) {call : RunCall} (hcall : call.isClosing = true) :
    ∃ q last, Steps { p with closed := true } q ∧ last.isTerminal = true ∧
      p.perform call = q.report last := by
  cases call with
  | fail message => exact ⟨_, _, steps_failing p message, rfl, fail_of_open h message⟩
  | finish => exact ⟨_, _, steps_finishing p, rfl, finish_of_open h⟩
  | stop => exact ⟨_, _, steps_closing p, rfl, stop_of_open h⟩
  | _ => cases hcall

/-- A run that is being closed counts as before. -/
theorem Tally.closing (h : p.Tally) : { p with closed := true }.Tally :=
  h.congr rfl rfl rfl rfl rfl rfl id

/-- The flags and the counts go with the reports, and exactly if the run is closed it has been told,
once, that it is over. -/
structure Lawful (p : RunReader) : Prop where
  tally : p.Tally
  terminals : p.reports.countP (·.isTerminal) = if p.closed then 1 else 0

namespace Lawful

theorem steps (h : p.Lawful) (hsteps : Steps p q) : q.Lawful where
  tally := h.tally.steps hsteps
  terminals := by rw [hsteps.countP_isTerminal, hsteps.closed_eq, h.terminals]

/-- A run is closed by the report that it is over. -/
theorem close (h : p.Lawful) (hopen : p.closed = false)
    (hsteps : Steps { p with closed := true } q) {last : RunReport}
    (hlast : last.isTerminal = true) : (q.report last).Lawful := by
  have hq := h.tally.closing.steps hsteps
  have hclosed : q.closed = true := hsteps.closed_eq
  refine ⟨?_, ?_⟩
  · cases last with
    | runStopped elapsed =>
      exact hq.extend [.runStopped elapsed] rfl (List.append_nil _) hq.expected rfl rfl rfl
        hq.sawOutput (failedThenEnded_singleton (by simp))
    | runEnded elapsed =>
      exact hq.extend [.runEnded elapsed] rfl (List.append_nil _) hq.expected rfl rfl rfl
        hq.sawOutput (failedThenEnded_singleton (by simp))
    | _ => cases hlast
  · have hbefore : q.reports.countP (·.isTerminal) = 0 := by
      rw [hsteps.countP_isTerminal, h.terminals, hopen]
      rfl
    simp [report, hbefore, hclosed, hlast]

theorem perform (h : p.Lawful) (call : RunCall) :
    (p.perform call).Lawful ∧ (p.perform call).closed = (p.closed || call.isClosing) := by
  cases hcall : call.isClosing with
  | true =>
    cases hclosed : p.closed with
    | true =>
      rw [perform_of_closed hclosed hcall]
      exact ⟨h, hclosed⟩
    | false =>
      obtain ⟨q, last, hsteps, hlast, heq⟩ := perform_of_open hclosed hcall
      rw [heq]
      exact ⟨h.close hclosed hsteps hlast, hsteps.closed_eq⟩
  | false =>
    rw [Bool.or_false]
    cases call with
    | lines batch =>
      have hsteps := steps_lines p batch
      exact ⟨h.steps hsteps, hsteps.closed_eq⟩
    | cancel => exact ⟨⟨h.tally.congr rfl rfl rfl rfl rfl rfl id, h.terminals⟩, rfl⟩
    | _ => cases hcall

theorem performAll (h : p.Lawful) (calls : List RunCall) :
    (p.performAll calls).Lawful ∧
      (p.performAll calls).closed = (p.closed || calls.any (·.isClosing)) := by
  induction calls generalizing p with
  | nil => exact ⟨h, (Bool.or_false _).symm⟩
  | cons call calls ih =>
    obtain ⟨hnext, hclosed⟩ := h.perform call
    obtain ⟨hlast, heq⟩ := ih hnext
    rw [hclosed, Bool.or_assoc, ← List.any_cons] at heq
    exact ⟨hlast, heq⟩

end Lawful

theorem lawful_new : new.Lawful := ⟨tally_new, rfl⟩

/-! ## The open test -/

theorem current_closing (p : RunReader) : p.closing.current = p.current := by
  obtain ⟨_, _, _, _, heq, _⟩ := closeKey_eq { p with closed := true }
  rw [closing, heq]

theorem sawOutput_closing (p : RunReader) : p.closing.sawOutput = p.sawOutput := by
  obtain ⟨_, _, _, _, heq, _⟩ := closeKey_eq { p with closed := true }
  rw [closing, heq]

theorem current_ensureStarted (p : RunReader) : p.ensureStarted.current = p.current := by
  unfold ensureStarted
  split_ifs <;> rfl

theorem sawOutput_ensureStarted (p : RunReader) : p.ensureStarted.sawOutput = p.sawOutput := by
  unfold ensureStarted
  split_ifs <;> rfl

theorem runStarted_ensureStarted (p : RunReader) : p.ensureStarted.runStarted = true := by
  unfold ensureStarted
  split_ifs with h
  · exact h
  · rfl

/-- Between two readers, is a test reported to have broken off and ended? -/
def BreaksOff (test : TestId) (p q : RunReader) : Prop :=
  ∃ trace told more,
    q.reports = p.reports ++ told ++ [.testFailed .error test trace, .testEnded test] ++ more

theorem breaksOff_of_abandonTest {test : TestId} {message : String} {r : RunReader}
    (hq : p.reports <+: q.reports) (hcurrent : q.current = some test)
    (hr : Steps (q.abandonTest message) r) : BreaksOff test p r := by
  obtain ⟨told, htold⟩ := hq
  obtain ⟨more, hmore⟩ := hr.prefix_reports
  have habandoned : ∃ trace, (q.abandonTest message).reports =
      q.reports ++ [.testFailed .error test trace, .testEnded test] := by
    rw [abandonTest, hcurrent]
    exact ⟨_, List.append_assoc ..⟩
  obtain ⟨trace, htrace⟩ := habandoned
  exact ⟨trace, told, more, by rw [htold, ← htrace, hmore]⟩

theorem breaksOff_finishing (h : p.Tally) {test : TestId} (hp : p.current = some test) :
    BreaksOff test p p.finishing := by
  have hsteps : Steps { p with closed := true } p.closing.ensureStarted :=
    (steps_closing p).trans (steps_ensureStarted _)
  have hcurrent : p.closing.ensureStarted.current = some test := by
    rw [current_ensureStarted, current_closing, hp]
  have hsaw : p.closing.ensureStarted.sawOutput = true := by
    rw [sawOutput_ensureStarted, sawOutput_closing]
    exact h.sawOutput (by rw [hp]; rfl)
  unfold finishing
  rw [if_neg (by simp [hsaw]), if_pos (by simp [hcurrent])]
  exact breaksOff_of_abandonTest hsteps.prefix_reports hcurrent (steps_reportFailure _ _)

theorem breaksOff_failing {test : TestId} (hp : p.current = some test) (message : String) :
    BreaksOff test p (p.failing message) :=
  breaksOff_of_abandonTest (steps_closing p).prefix_reports ((current_closing p).trans hp)
    ((steps_ensureStarted _).trans (steps_reportFailure _ _))

/-! ## The start of the run -/

theorem runStarted_finishing (p : RunReader) : p.finishing.runStarted = true :=
  (steps_started_finishing p).runStarted (runStarted_ensureStarted _)

theorem runStarted_failing (p : RunReader) (message : String) :
    (p.failing message).runStarted = true :=
  (steps_reportFailure _ _).runStarted (runStarted_ensureStarted _)

/-- A run that counts as started has been reported to have started. -/
theorem Tally.mem_of_runStarted (h : p.Tally) (hp : p.runStarted = true) :
    .runStarted p.expected ∈ p.reports := by
  have hmem : p.expected ∈ p.reports.filterMap (·.announced?) := by
    rw [h.starts, if_pos hp]
    exact List.mem_singleton_self _
  obtain ⟨r, hr, hannounced⟩ := List.mem_filterMap.1 hmem
  cases r with
  | runStarted count => rwa [← Option.some.inj hannounced]
  | _ => cases hannounced

/-! ## All histories -/

/-- What a call does that ends an open run: the open test breaks off, and the last report is that the
run, whose start has been reported, has ended. -/
structure EndsRun (p q : RunReader) : Prop where
  breaksOff : ∀ test, p.current = some test → BreaksOff test p q
  ended : ∃ told count elapsed,
    q.reports = told ++ [.runEnded elapsed] ∧ .runStarted count ∈ told

theorem BreaksOff.report {test : TestId} (h : BreaksOff test p q) (r : RunReport) :
    BreaksOff test p (q.report r) := by
  obtain ⟨trace, told, more, hreports⟩ := h
  refine ⟨trace, told, more ++ [r], ?_⟩
  rw [RunReader.report, hreports]
  exact List.append_assoc ..

theorem Lawful.endsRun (h : p.Lawful) (hopen : p.closed = false) {call : RunCall}
    (hcall : call.isEnding = true) : EndsRun p (p.perform call) := by
  cases call with
  | fail message =>
    have hstarted := (h.tally.closing.steps (steps_failing p message)).mem_of_runStarted
      (runStarted_failing p message)
    rw [RunReader.perform, fail_of_open hopen]
    exact ⟨fun test hp => (breaksOff_failing hp message).report _, _, _, _, rfl, hstarted⟩
  | finish =>
    have hstarted := (h.tally.closing.steps (steps_finishing p)).mem_of_runStarted
      (runStarted_finishing p)
    rw [RunReader.perform, finish_of_open hopen]
    exact ⟨fun test hp => (breaksOff_finishing h.tally hp).report _, _, _, _, rfl, hstarted⟩
  | _ => cases hcall

/-- **Main theorem.** A reader has been called in any way. Then it has reported one start of the run at
most, and one failure of it at most; it has told once that the run is over if any call was to close it,
and else it has not. Every test that has failed has then ended at once, and the tests that have ended
are counted. If the first call that closes the run ends it, then during this call the open test breaks
off, and the start of the run is reported before its end. -/
theorem performAll_lawful (calls : List RunCall) :
    let p := new.performAll calls
    p.reports.countP (·.announced?.isSome) ≤ 1 ∧ p.reports.countP (·.isRunFailed) ≤ 1 ∧
      p.reports.countP (·.isTerminal) = (if calls.any (·.isClosing) then 1 else 0) ∧
      FailedThenEnded p.reports ∧ p.ended = p.reports.countP (·.isTestEnded) ∧
      ∀ before call after, calls = before ++ call :: after →
        before.any (·.isClosing) = false → call.isEnding = true →
          EndsRun (new.performAll before) ((new.performAll before).perform call) := by
  intro p
  obtain ⟨hlawful, hclosed⟩ := lawful_new.performAll calls
  have hfailures := hlawful.tally.failures
  have hterminals := hlawful.terminals
  rw [hclosed] at hterminals
  refine ⟨?_, ?_, hterminals, hlawful.tally.failedThenEnded, hlawful.tally.ends.symm, ?_⟩
  · rw [← List.length_filterMap_eq_countP, hlawful.tally.starts]
    split_ifs <;> simp
  · rw [hfailures]
    split_ifs <;> simp
  · intro before call after _ hbefore hcall
    obtain ⟨hlawful, hclosed⟩ := lawful_new.performAll before
    rw [hbefore] at hclosed
    exact hlawful.endsRun hclosed hcall

theorem performAll_lawful_openTest :
    let before := [.lines ["INSTRUMENTATION_STATUS: class=com.A", "INSTRUMENTATION_STATUS: test=one",
      "INSTRUMENTATION_STATUS_CODE: 1"], .cancel]
    before.any (·.isClosing) = false ∧ RunCall.finish.isEnding = true ∧
      EndsRun (new.performAll before) ((new.performAll before).perform .finish) ∧
        BreaksOff ⟨"com.A", "one"⟩ (new.performAll before)
          ((new.performAll before).perform .finish) := by
  intro before
  have hbefore : before.any (·.isClosing) = false := rfl
  have hcurrent : (new.performAll before).current = some ⟨"com.A", "one"⟩ := by decide +kernel
  obtain ⟨-, -, -, -, -, hends⟩ := performAll_lawful (before ++ [.finish])
  have hrun := hends before .finish [] rfl hbefore rfl
  exact ⟨hbefore, rfl, hrun, hrun.breaksOff _ hcurrent⟩

end RunReader

end DebugBridge
