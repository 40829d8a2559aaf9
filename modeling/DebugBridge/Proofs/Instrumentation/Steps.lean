import DebugBridge.Instrumentation.Calls
import Mathlib.Logic.Relation
import Mathlib.Tactic.SplitIfs

/-!
# What a reader does, step by step

All that a reader does with a line, and all that it does while it closes a run, is a chain of a few kinds
of steps: it notes something, or it makes one report, or it reports that a test has failed and ended.
So what every kind of step preserves holds of every reader.

Results:
* `steps_lines`: the steps of a reader over lines;
* `Steps.preserve`: what every step preserves;
* `Tally.steps`: the flags and the counts of a reader go with its reports.
-/

namespace DebugBridge

namespace RunReader

variable {p q : RunReader}

/-! ## Steps -/

/-- One thing that a reader does. Only a step that makes no report leaves room for what is not counted:
the value that is read, the bundle, the time and whether the run is cancelled. -/
inductive Step : RunReader → RunReader → Prop
  | quiet {p q : RunReader} (reports : q.reports = p.reports)
      (runStarted : q.runStarted = p.runStarted) (runFailed : q.runFailed = p.runFailed)
      (closed : q.closed = p.closed) (expected : q.expected = p.expected)
      (ended : q.ended = p.ended) (current : q.current = p.current)
      (sawOutput : p.sawOutput = true → q.sawOutput = true) : Step p q
  | runStarted {p : RunReader} (count : Nat) (h : p.runStarted = false) :
      Step p { p.report (.runStarted count) with runStarted := true, expected := count }
  | emptyRun {p : RunReader} (h : p.runStarted = false) :
      Step p { p.report (.runStarted 0) with runStarted := true }
  | runFailed {p : RunReader} (message : String) (h : p.runFailed = false) :
      Step p { p.report (.runFailed message) with runFailed := true }
  | testStarted {p : RunReader} (test : TestId) (h : p.sawOutput = true) :
      Step p { p.report (.testStarted test) with current := some test }
  | testEnded {p : RunReader} (test : TestId) : Step p (p.endTest test)
  | testFailed {p : RunReader} (kind : TestFailure) (test : TestId) (trace : String) :
      Step p (p.failTest kind test trace)

/-- Some steps, one after another. -/
abbrev Steps : RunReader → RunReader → Prop := Relation.ReflTransGen Step

theorem Steps.preserve {P : RunReader → Prop} (hstep : ∀ {p q}, Step p q → P p → P q)
    (h : Steps p q) (hp : P p) : P q := by
  induction h with
  | refl => exact hp
  | tail _ hlast ih => exact hstep hlast ih

theorem steps_reportFailure (p : RunReader) (message : String) :
    Steps p (p.reportFailure message) := by
  unfold reportFailure
  split_ifs with h
  · exact .refl
  · exact .single (.runFailed message (by simpa using h))

theorem steps_ensureStarted (p : RunReader) : Steps p p.ensureStarted := by
  unfold ensureStarted
  split_ifs with h
  · exact .refl
  · exact .single (.emptyRun (by simpa using h))

theorem steps_abandonTest (p : RunReader) (message : String) :
    Steps p (p.abandonTest message) := by
  unfold abandonTest
  split
  · exact .single (.testFailed ..)
  · exact .refl

/-! ## Reading lines -/

theorem steps_submit (p : RunReader) (k : OpenKey) : Steps p (p.submit k) := by
  unfold submit
  split_ifs
  · exact steps_reportFailure p _
  · split
    · exact .single (.quiet rfl rfl rfl rfl rfl rfl rfl id)
    · exact .refl

theorem steps_closeKey (p : RunReader) : Steps p p.closeKey := by
  have hnone : Step p { p with openKey := none } := .quiet rfl rfl rfl rfl rfl rfl rfl id
  unfold closeKey
  split
  · exact .head hnone (steps_submit _ _)
  · exact .refl

/-- The end of a value concerns the bundle, unless it tells that the run failed. -/
theorem closeKey_eq (p : RunReader) :
    ∃ openKey bundle runFailed told,
      p.closeKey = { p with openKey, bundle, runFailed, reports := p.reports ++ told } ∧
        ∀ r ∈ told, r.isRunFailed = true := by
  unfold closeKey
  split
  · unfold submit
    split_ifs
    · unfold reportFailure
      split_ifs
      · exact ⟨none, p.bundle, p.runFailed, [], by rw [List.append_nil], by simp⟩
      · exact ⟨none, p.bundle, true, [.runFailed _], rfl, by simp [RunReport.isRunFailed]⟩
    · split
      · exact ⟨none, _, p.runFailed, [], by rw [List.append_nil], by simp⟩
      · exact ⟨none, p.bundle, p.runFailed, [], by rw [List.append_nil], by simp⟩
  · exact ⟨p.openKey, p.bundle, p.runFailed, [], by rw [List.append_nil], by simp⟩

theorem steps_beginKey (p : RunReader) (sect : Section) (body : String) :
    Steps p (p.beginKey sect body) := by
  unfold beginKey
  split
  · exact .single (.quiet rfl rfl rfl rfl rfl rfl rfl id)
  · exact .refl

theorem steps_continueKey (p : RunReader) (line : String) : Steps p (p.continueKey line) := by
  unfold continueKey
  split
  · exact .single (.quiet rfl rfl rfl rfl rfl rfl rfl id)
  · exact .refl

theorem steps_noteTime (p : RunReader) (span : String) : Steps p (p.noteTime span) := by
  unfold noteTime
  split
  · exact .single (.quiet rfl rfl rfl rfl rfl rfl rfl fun _ => rfl)
  · exact .refl

theorem steps_announce (p : RunReader) (b : Bundle) : Steps p (p.announce b) := by
  unfold announce
  split
  · exact .single (.runStarted _ ‹_›)
  · exact .refl

theorem steps_outcome (h : p.sawOutput = true) (code : Int) (test : TestId) (trace : String) :
    Steps p (p.outcome code test trace) := by
  unfold outcome
  split_ifs
  · exact .single (.testStarted test h)
  · exact .single (.testEnded test)
  · exact .single (.testFailed .failure test trace)
  · exact .single (.testFailed .error test trace)
  · exact .refl

theorem sawOutput_announce (p : RunReader) (b : Bundle) :
    (p.announce b).sawOutput = p.sawOutput := by
  unfold announce
  split <;> rfl

theorem steps_closeBundle (h : p.sawOutput = true) (code : String) :
    Steps p (p.closeBundle code) := by
  have hempty : Step p { p with bundle := .empty } := .quiet rfl rfl rfl rfl rfl rfl rfl id
  have hsaw : ({ p with bundle := .empty }.announce p.bundle).sawOutput = true :=
    (sawOutput_announce _ _).trans h
  unfold closeBundle
  dsimp only
  split
  · exact .single hempty
  · refine .head hempty ((steps_announce _ p.bundle).trans ?_)
    split
    · exact steps_outcome hsaw _ _ _
    · exact .refl

/-- One line, by its lead: whichever it is, the value before it ends first, unless it goes on. -/
theorem steps_line (p : RunReader) (text : String) : Steps p (p.line text) := by
  have hseen : Steps p { p.closeKey with sawOutput := true } :=
    .tail (steps_closeKey p) (.quiet rfl rfl rfl rfl rfl rfl rfl fun _ => rfl)
  unfold line
  split
  · exact hseen.trans (steps_closeBundle rfl _)
  · exact hseen.trans (steps_beginKey _ _ _)
  · exact hseen
  · exact (steps_closeKey p).trans (steps_noteTime _ _)
  · exact steps_continueKey p _

theorem steps_lines (p : RunReader) (batch : List String) : Steps p (p.lines batch) := by
  induction batch generalizing p with
  | nil => exact .refl
  | cons text batch ih => exact (steps_line p text).trans (ih (p.line text))

/-! ## What steps preserve -/

theorem Step.prefix_reports (h : Step p q) : p.reports <+: q.reports := by
  cases h with
  | quiet hreports => exact hreports ▸ List.prefix_refl _
  | testFailed => exact (List.prefix_append ..).trans (List.prefix_append ..)
  | _ => exact List.prefix_append ..

theorem Steps.prefix_reports (h : Steps p q) : p.reports <+: q.reports :=
  h.preserve (P := fun q => p.reports <+: q.reports) (fun hstep hp => hp.trans hstep.prefix_reports)
    (List.prefix_refl _)

theorem Steps.closed_eq (h : Steps p q) : q.closed = p.closed := by
  refine h.preserve (P := fun q => q.closed = p.closed) (fun hstep hp => ?_) rfl
  cases hstep with
  | quiet _ _ _ hclosed => exact hclosed.trans hp
  | _ => exact hp

/-! ## Flags and counts -/

/-- The test that is open after a report. -/
def openAfter (current : Option TestId) : RunReport → Option TestId
  | .testStarted test => some test
  | .testEnded _ => none
  | _ => current

/-- The test that has started and not ended, as told by reports. -/
def openTest (reports : List RunReport) : Option TestId := reports.foldl openAfter none

/-- Is every report of a failed test followed at once by one that this test has ended? -/
def FailedThenEnded (reports : List RunReport) : Prop :=
  ∀ before kind test trace after, reports = before ++ .testFailed kind test trace :: after →
    after.head? = some (.testEnded test)

theorem FailedThenEnded.append {reports more : List RunReport} (h : FailedThenEnded reports)
    (hmore : FailedThenEnded more) : FailedThenEnded (reports ++ more) := by
  intro before kind test trace after heq
  rcases List.append_eq_append_iff.1 heq with ⟨l, rfl, hl⟩ | ⟨l, rfl, hl⟩
  · exact hmore l kind test trace after hl
  · cases l with
    | nil => exact hmore [] kind test trace after hl.symm
    | cons r l =>
      obtain ⟨rfl, hafter⟩ := List.cons.inj hl
      have hhead := h before kind test trace l rfl
      rw [hafter]
      exact List.head?_append.trans (by rw [hhead]; rfl)

theorem failedThenEnded_nil : FailedThenEnded [] := by
  intro before kind test trace after h
  simp at h

theorem failedThenEnded_singleton {r : RunReport}
    (h : ∀ kind test trace, r ≠ .testFailed kind test trace) : FailedThenEnded [r] := by
  rintro (- | ⟨x, before⟩) kind test trace after heq
  · exact absurd (List.cons.inj heq).1 (h kind test trace)
  · simp at heq

theorem failedThenEnded_pair (kind : TestFailure) (test : TestId) (trace : String) :
    FailedThenEnded [.testFailed kind test trace, .testEnded test] := by
  rintro (- | ⟨x, before⟩) kind' test' trace' after heq
  · obtain ⟨hfirst, rfl⟩ := List.cons.inj heq
    cases hfirst
    rfl
  · have hlast := (List.cons.inj heq).2
    exact failedThenEnded_singleton (by simp) before kind' test' trace' after hlast

/-- The flags and the counts of a reader go with its reports. -/
structure Tally (p : RunReader) : Prop where
  starts : p.reports.filterMap (·.announced?) = if p.runStarted then [p.expected] else []
  expected : p.runStarted = false → p.expected = 0
  failures : p.reports.countP (·.isRunFailed) = if p.runFailed then 1 else 0
  ends : p.reports.countP (·.isTestEnded) = p.ended
  current : openTest p.reports = p.current
  sawOutput : p.current.isSome = true → p.sawOutput = true
  failedThenEnded : FailedThenEnded p.reports

theorem tally_new : new.Tally where
  starts := rfl
  expected := fun _ => rfl
  failures := rfl
  ends := rfl
  current := rfl
  sawOutput := by simp [new]
  failedThenEnded := failedThenEnded_nil

namespace Tally

/-- More reports, counted for themselves. -/
theorem extend (h : p.Tally) (more : List RunReport) (hreports : q.reports = p.reports ++ more)
    (hstarts : (if p.runStarted then [p.expected] else []) ++ more.filterMap (·.announced?) =
      if q.runStarted then [q.expected] else [])
    (hexpected : q.runStarted = false → q.expected = 0)
    (hfailures : (if p.runFailed then 1 else 0) + more.countP (·.isRunFailed) =
      if q.runFailed then 1 else 0)
    (hends : p.ended + more.countP (·.isTestEnded) = q.ended)
    (hcurrent : more.foldl openAfter p.current = q.current)
    (hsaw : q.current.isSome = true → q.sawOutput = true) (hpairs : FailedThenEnded more) :
    q.Tally where
  starts := by rw [hreports, List.filterMap_append, h.starts, hstarts]
  expected := hexpected
  failures := by rw [hreports, List.countP_append, h.failures, hfailures]
  ends := by rw [hreports, List.countP_append, h.ends, hends]
  current := by rw [hreports, openTest, List.foldl_append, ← openTest, h.current, hcurrent]
  sawOutput := hsaw
  failedThenEnded := by rw [hreports]; exact h.failedThenEnded.append hpairs

/-- Only the reports and some fields matter. -/
theorem congr (h : p.Tally) (hreports : q.reports = p.reports)
    (hstarted : q.runStarted = p.runStarted) (hfailed : q.runFailed = p.runFailed)
    (hexpected : q.expected = p.expected) (hended : q.ended = p.ended)
    (hcurrent : q.current = p.current) (hsaw : p.sawOutput = true → q.sawOutput = true) :
    q.Tally where
  starts := by rw [hreports, hstarted, hexpected, h.starts]
  expected := by rw [hstarted, hexpected]; exact h.expected
  failures := by rw [hreports, hfailed, h.failures]
  ends := by rw [hreports, hended, h.ends]
  current := by rw [hreports, hcurrent, h.current]
  sawOutput := by rw [hcurrent]; exact fun hsome => hsaw (h.sawOutput hsome)
  failedThenEnded := by rw [hreports]; exact h.failedThenEnded

theorem step (h : p.Tally) (hstep : Step p q) : q.Tally := by
  cases hstep with
  | quiet hreports hstarted hfailed _ hexpected hended hcurrent hsaw =>
    exact h.congr hreports hstarted hfailed hexpected hended hcurrent hsaw
  | runStarted count hnot =>
    refine h.extend [.runStarted count] rfl ?_ ?_ rfl rfl rfl h.sawOutput
      (failedThenEnded_singleton (by simp))
    · rw [hnot]
      rfl
    · simp
  | emptyRun hnot =>
    refine h.extend [.runStarted 0] rfl ?_ ?_ rfl rfl rfl h.sawOutput
      (failedThenEnded_singleton (by simp))
    · rw [hnot]
      exact congrArg (fun n => [n]) (h.expected hnot).symm
    · simp
  | runFailed message hnot =>
    refine h.extend [.runFailed message] rfl ?_ h.expected ?_ rfl rfl h.sawOutput
      (failedThenEnded_singleton (by simp))
    · exact List.append_nil _
    · rw [hnot]
      rfl
  | testStarted test hsaw =>
    exact h.extend [.testStarted test] rfl (List.append_nil _) h.expected rfl rfl rfl
      (fun _ => hsaw) (failedThenEnded_singleton (by simp))
  | testEnded test =>
    exact h.extend [.testEnded test] rfl (List.append_nil _) h.expected rfl rfl rfl
      (fun hsome => nomatch hsome) (failedThenEnded_singleton (by simp))
  | testFailed kind test trace =>
    exact h.extend [.testFailed kind test trace, .testEnded test] (List.append_assoc ..)
      (List.append_nil _) h.expected rfl rfl rfl (fun hsome => nomatch hsome)
      (failedThenEnded_pair kind test trace)

theorem steps (h : p.Tally) (hsteps : Steps p q) : q.Tally :=
  hsteps.preserve (fun hstep hp => hp.step hstep) h

end Tally

/-- A start that has been reported stays reported. -/
theorem Steps.runStarted (h : Steps p q) (hp : p.runStarted = true) : q.runStarted = true := by
  refine h.preserve (P := fun p => p.runStarted = true) (fun hstep hp => ?_) hp
  cases hstep with
  | quiet _ hstarted => exact hstarted.trans hp
  | runStarted | emptyRun => rfl
  | _ => exact hp

end RunReader

end DebugBridge
