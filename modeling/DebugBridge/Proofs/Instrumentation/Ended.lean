import DebugBridge.Proofs.Instrumentation.Statuses
import Mathlib.Data.List.Chain

/-!
# The tests of a run that did not fail

A reader keeps the test that is open, and the number of tests that have ended. When the output ends, an
open test and a number that falls short both let the run fail. So in a run that did not fail as many
tests have ended as were told at its start, and no start is the last word on a test.

Only one test can be open, so this need not be the test that has started: a start or an end of another
one takes its place. A started test is sure to have ended if the statuses tell of the tests one by one.

Results:
* `finishing_of_sound`: how a run ends that did not fail;
* `testEnded_of_isChain`: the end of a test follows its start;
* `tests_of_sound_run`: the tests of such a run.
-/

namespace DebugBridge

/-- After a report that a test starts, does the next one tell that it starts again or has ended? -/
def RunReport.keepsTo : RunReport → RunReport → Bool
  | .testStarted test, next => next == .testStarted test || next == .testEnded test
  | _, _ => true

/-- Among the starts and ends of tests that statuses story, is the start of a test always followed by
one of the same test? -/
def RunStatus.OneByOne (statuses : List RunStatus) : Prop :=
  (turns statuses).IsChain (·.keepsTo ·)

instance (statuses : List RunStatus) : Decidable (RunStatus.OneByOne statuses) :=
  inferInstanceAs (Decidable ((RunStatus.turns statuses).IsChain (·.keepsTo ·)))

namespace RunReader

open RunStatus

variable {p : RunReader}

/-! ## Starts and ends of tests -/

theorem turns_filter (reports : List RunReport) :
    (reports.filter (! ·.isRunFailed)).filter (·.isTurn) = reports.filter (·.isTurn) := by
  rw [List.filter_filter]
  exact List.filter_congr fun r _ => by cases r <;> rfl

theorem turns_story (started : Bool) (statuses : List RunStatus) :
    (story started statuses).filter (·.isTurn) = turns statuses := by
  induction statuses generalizing started with
  | nil => rfl
  | cons s statuses ih =>
    have hstart : ∀ count : Option Nat,
        (if started then [] else count.toList.map RunReport.runStarted).filter
          (·.isTurn) = [] := by
      intro count
      cases started <;> cases count <;> rfl
    rw [story, List.filter_append, List.filter_append, hstart, ih, turns, turns, List.flatMap_cons,
      List.filter_append, List.nil_append]

/-- The starts and ends that a reader reports of tests are those that its statuses tell. -/
theorem turns_lines (batch : List String) :
    (new.lines batch).reports.filter (·.isTurn) = turns (new.statuses batch) := by
  have hreports := (hears_lines new batch).reports
  rw [← turns_filter, hreports]
  exact turns_story false _

theorem turns_closing (p : RunReader) :
    p.closing.ensureStarted.reports.filter (·.isTurn) = p.reports.filter (·.isTurn) := by
  obtain ⟨_, _, _, told, heq, htold⟩ := closeKey_eq { p with closed := true }
  have hnone : told.filter (·.isTurn) = [] := by
    rw [List.filter_eq_nil_iff]
    intro r hr
    have := htold r hr
    cases r <;> first | exact Bool.false_ne_true | cases this
  have hclosing : p.closing.reports.filter (·.isTurn) = p.reports.filter (·.isTurn) := by
    rw [closing, heq, List.filter_append, hnone, List.append_nil]
  unfold ensureStarted
  split_ifs
  · exact hclosing
  · rw [← hclosing]
    exact (List.filter_append ..).trans (List.append_nil _)

/-! ## The test that is open -/

/-- Only starts and ends of tests matter to which test is open. -/
theorem openTest_turns (reports : List RunReport) :
    openTest (reports.filter (·.isTurn)) = openTest reports := by
  rw [openTest, List.foldl_filter, openTest]
  congr 1
  funext current r
  cases r <;> rfl

/-- A test that is open stays so until some test ends. -/
theorem exists_testEnded {reports : List RunReport} (test : TestId)
    (h : reports.foldl openAfter (some test) = none) : ∃ other, .testEnded other ∈ reports := by
  induction reports generalizing test with
  | nil => cases h
  | cons r reports ih =>
    cases r with
    | testEnded other => exact ⟨other, List.mem_cons_self⟩
    | testStarted next =>
      obtain ⟨other, hmem⟩ := ih next h
      exact ⟨other, List.mem_cons_of_mem _ hmem⟩
    | _ =>
      obtain ⟨other, hmem⟩ := ih test h
      exact ⟨other, List.mem_cons_of_mem _ hmem⟩

theorem openTest_split (before after : List RunReport) (test : TestId) :
    openTest (before ++ .testStarted test :: after) = after.foldl openAfter (some test) := by
  rw [openTest, List.foldl_append]
  rfl

/-- A test that is open ends before any other is told of, if every start is kept to. -/
theorem testEnded_of_isChain {told : List RunReport} {test : TestId}
    (h : (.testStarted test :: told).IsChain (·.keepsTo ·))
    (hopen : told.foldl openAfter (some test) = none) : .testEnded test ∈ told := by
  induction told with
  | nil => cases hopen
  | cons next told ih =>
    obtain ⟨hnext, hrest⟩ := List.isChain_cons_cons.1 h
    have hsame : next = .testStarted test ∨ next = .testEnded test := by
      simpa [RunReport.keepsTo] using hnext
    rcases hsame with rfl | rfl
    · exact List.mem_cons_of_mem _ (ih hrest hopen)
    · exact List.mem_cons_self

/-! ## The end of a run -/

/-- A run that has not failed ends without an open test, and with all the tests told at its start. -/
theorem finishing_of_sound (h : p.finishing.runFailed = false) :
    p.finishing = p.closing.ensureStarted ∧ p.finishing.current = none ∧
      p.finishing.expected ≤ p.finishing.ended := by
  unfold finishing at h ⊢
  dsimp only at h ⊢
  split_ifs at h ⊢ with hsaw hleft
  · rw [runFailed_reportFailure] at h
    cases h
  · rw [runFailed_reportFailure] at h
    cases h
  · obtain ⟨hcurrent, hcount⟩ : p.closing.ensureStarted.current = none ∧
        p.closing.ensureStarted.expected ≤ p.closing.ensureStarted.ended := by
      simpa using hleft
    exact ⟨rfl, hcurrent, hcount⟩

theorem finish_of_sound (h : p.Unended false)
    (hsound : ∀ message, .runFailed message ∉ p.finish.reports) :
    p.finish.current = none ∧ p.finish.expected ≤ p.finish.ended ∧
      p.finish.reports.filter (·.isTurn) = p.reports.filter (·.isTurn) := by
  rw [finish_of_open h.closed_eq] at hsound ⊢
  have hfailed : p.finishing.runFailed = false := by
    refine Bool.eq_false_iff.2 fun hfailed => ?_
    obtain ⟨message, hmem⟩ := (h.closing.steps (steps_finishing p)).failed hfailed
    exact hsound message (List.mem_append_left _ hmem)
  obtain ⟨heq, hcurrent, hcount⟩ := finishing_of_sound hfailed
  refine ⟨hcurrent, hcount, ?_⟩
  rw [← turns_closing p, ← heq]
  exact (List.filter_append ..).trans (List.append_nil _)

/-- **Main theorem.** The lines of a run are read, and its output ends without a report that the run
failed. Then as many tests have ended as were told at its start. After each start of a test some test
ends; and if the statuses to which the lines come tell of the tests one by one, it is this test. -/
theorem tests_of_sound_run (batch : List String)
    (hsound : ∀ message, .runFailed message ∉ (new.lines batch).finish.reports) :
    let reports := (new.lines batch).finish.reports
    (∀ count, .runStarted count ∈ reports → count ≤ reports.countP (·.isTestEnded)) ∧
      ∀ before test after, reports = before ++ .testStarted test :: after →
        (∃ other, .testEnded other ∈ after) ∧
          (OneByOne (new.statuses batch) → .testEnded test ∈ after) := by
  have hlawful : (new.lines batch).Lawful := lawful_new.steps (steps_lines new batch)
  have htally : (new.lines batch).finish.Tally := (hlawful.perform .finish).1.tally
  obtain ⟨hcurrent, hcount, hturns⟩ := finish_of_sound (unended_new.lines batch) hsound
  have hopen := htally.current.trans hcurrent
  intro reports
  refine ⟨fun count hmem => ?_, fun before test after hsplit => ⟨?_, fun hone => ?_⟩⟩
  · have hstart : count ∈ reports.filterMap (·.announced?) := List.mem_filterMap.2 ⟨_, hmem, rfl⟩
    rw [htally.starts] at hstart
    split_ifs at hstart
    · rwa [List.mem_singleton.1 hstart, htally.ends]
    · cases hstart
  · have hrest : openTest (before ++ .testStarted test :: after) = none := hsplit ▸ hopen
    rw [openTest_split] at hrest
    exact exists_testEnded test hrest
  · rw [turns_lines] at hturns
    rw [← openTest_turns, hturns] at hopen
    have hsplit' : turns (new.statuses batch) =
        before.filter (·.isTurn) ++ .testStarted test :: after.filter (·.isTurn) := by
      rw [← hturns]
      exact (congrArg (List.filter (·.isTurn)) hsplit).trans (List.filter_append ..)
    rw [hsplit', openTest_split] at hopen
    rw [OneByOne, hsplit'] at hone
    have hafter := testEnded_of_isChain hone.right_of_append hopen
    exact (List.mem_filter.1 hafter).1

theorem tests_of_sound_run_twoTests :
    let batch := testBundle "one" ["INSTRUMENTATION_STATUS: numtests=2"] "1" ++
      testBundle "one" [] "0" ++ testBundle "two" [] "1" ++ testBundle "two" [] "0"
    (∀ message, .runFailed message ∉ (new.lines batch).finish.reports) ∧
      OneByOne (new.statuses batch) ∧
        2 ≤ (new.lines batch).finish.reports.countP (·.isTestEnded) ∧
          ∃ before after,
            (new.lines batch).finish.reports = before ++ .testStarted ⟨"com.A", "one"⟩ :: after ∧
              .testEnded ⟨"com.A", "one"⟩ ∈ after := by
  intro batch
  have hreports : (new.lines batch).finish.reports =
      [.runStarted 2, .testStarted ⟨"com.A", "one"⟩, .testEnded ⟨"com.A", "one"⟩,
        .testStarted ⟨"com.A", "two"⟩, .testEnded ⟨"com.A", "two"⟩, .runEnded 0] := by
    decide +kernel
  have hsound : ∀ message, .runFailed message ∉ (new.lines batch).finish.reports := by
    simp [hreports]
  have hone : OneByOne (new.statuses batch) := by decide +kernel
  obtain ⟨hcount, hended⟩ := tests_of_sound_run batch hsound
  refine ⟨hsound, hone, hcount 2 (by simp [hreports]), [.runStarted 2], _, hreports, ?_⟩
  exact (hended [.runStarted 2] _ _ hreports).2 hone

/-- Of two tests of which one starts before the other has ended, one never ends: the run, told to have
one test, does not fail. -/
theorem testEnded_missing_of_nested :
    let batch := testBundle "one" ["INSTRUMENTATION_STATUS: numtests=1"] "1" ++
      testBundle "two" ["INSTRUMENTATION_STATUS: numtests=1"] "1" ++
      testBundle "two" ["INSTRUMENTATION_STATUS: numtests=1"] "0"
    let reports := (new.lines batch).finish.reports
    (∀ message, .runFailed message ∉ reports) ∧
      .testStarted ⟨"com.A", "one"⟩ ∈ reports ∧ .testEnded ⟨"com.A", "one"⟩ ∉ reports := by
  intro batch reports
  have hreports : reports =
      [.runStarted 1, .testStarted ⟨"com.A", "one"⟩, .testStarted ⟨"com.A", "two"⟩,
        .testEnded ⟨"com.A", "two"⟩, .runEnded 0] := by
    decide +kernel
  simp [hreports]

end RunReader

end DebugBridge
