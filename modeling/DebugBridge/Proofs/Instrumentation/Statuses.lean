import DebugBridge.Instrumentation.Statuses
import DebugBridge.Proofs.Instrumentation.Calls

/-!
# A run is told by its statuses

What a reader reports of the start of a run and of its tests is what the statuses tell to which its
lines come. All other lines can do is to let the run fail.

The start of a run is told with the first number of tests, or when the run ends. So it comes before
the tests exactly if no test is told of before a number.

Results:
* `hears_lines`: the reports of a reader, failures of the run apart;
* `startsFirst_story`: when the statuses tell the start first;
* `start_of_ended_run`: where the start of a run stands among its reports.
-/

namespace DebugBridge

theorem RunReport.isRunFailed_of_isOfTest {r : RunReport} (h : r.isOfTest = true) :
    r.isRunFailed = false := by
  cases r <;> first | rfl | cases h

theorem RunReport.announced?_of_isOfTest {r : RunReport} (h : r.isOfTest = true) :
    r.announced? = none := by
  cases r <;> first | rfl | cases h

namespace RunStatus

/-! ## What statuses tell -/

theorem isOfTest_of_mem {s : RunStatus} {r : RunReport} (h : r ∈ s.reports) :
    r.isOfTest = true := by
  unfold reports at h
  split at h
  · dsimp only at h
    split at h <;> simp only [List.mem_cons, List.not_mem_nil, or_false] at h
    · exact h ▸ rfl
    · exact h ▸ rfl
    · rcases h with rfl | rfl <;> rfl
    · rcases h with rfl | rfl <;> rfl
  · cases h

theorem story_append (started : Bool) (statuses more : List RunStatus) :
    story started (statuses ++ more) =
      story started statuses ++ story (started || statuses.any (·.isCounted)) more := by
  induction statuses generalizing started with
  | nil => simp [story]
  | cons s statuses ih => simp [story, ih, Bool.or_assoc]

theorem isRunFailed_of_mem_story {statuses : List RunStatus} {started : Bool} {r : RunReport}
    (h : r ∈ story started statuses) : r.isRunFailed = false := by
  induction statuses generalizing started with
  | nil => cases h
  | cons s statuses ih =>
    rcases List.mem_append.1 h with h | h
    · rcases List.mem_append.1 h with h | h
      · split_ifs at h
        · cases h
        · obtain ⟨count, -, rfl⟩ := List.mem_map.1 h
          rfl
      · exact RunReport.isRunFailed_of_isOfTest (isOfTest_of_mem h)
    · exact ih h

end RunStatus

namespace RunReader

open RunStatus

variable {p q : RunReader}

/-! ## Reading lines -/

/-- Between two readers some statuses are completed, and what they tell is reported. -/
structure Hears (p : RunReader) (added : List RunStatus) (q : RunReader) : Prop where
  reports : q.reports.filter (! ·.isRunFailed) =
    p.reports.filter (! ·.isRunFailed) ++ story p.runStarted added
  runStarted : q.runStarted = (p.runStarted || added.any (·.isCounted))

namespace Hears

theorem of_append {added : List RunStatus}
    (hreports : q.reports = p.reports ++ story p.runStarted added)
    (hstarted : q.runStarted = (p.runStarted || added.any (·.isCounted))) : Hears p added q where
  reports := by
    have hstory : (story p.runStarted added).filter (! ·.isRunFailed) = story p.runStarted added :=
      List.filter_eq_self.2 fun _ hr => by simp [isRunFailed_of_mem_story hr]
    rw [hreports, List.filter_append, hstory]
  runStarted := hstarted

theorem of_eq (hreports : q.reports = p.reports) (hstarted : q.runStarted = p.runStarted) :
    Hears p [] q where
  reports := by rw [hreports, story, List.append_nil]
  runStarted := by rw [hstarted, List.any_nil, Bool.or_false]

theorem trans {r : RunReader} {added more : List RunStatus} (h : Hears p added q)
    (h' : Hears q more r) : Hears p (added ++ more) r where
  reports := by rw [h'.reports, h.reports, h.runStarted, story_append, List.append_assoc]
  runStarted := by rw [h'.runStarted, h.runStarted, List.any_append, Bool.or_assoc]

end Hears

/-- The end of a value tells nothing but failures of the run. -/
theorem hears_closeKey (p : RunReader) : Hears p [] p.closeKey := by
  obtain ⟨_, _, _, told, heq, htold⟩ := closeKey_eq p
  have hnone : told.filter (! ·.isRunFailed) = [] := by
    simpa [List.filter_eq_nil_iff] using htold
  rw [heq]
  refine ⟨?_, (Bool.or_false _).symm⟩
  rw [List.filter_append, hnone]
  rfl

theorem hears_beginKey (p : RunReader) (sect : Section) (body : String) :
    Hears p [] (p.beginKey sect body) := by
  unfold beginKey
  split <;> exact .of_eq rfl rfl

theorem hears_continueKey (p : RunReader) (line : String) : Hears p [] (p.continueKey line) := by
  unfold continueKey
  split <;> exact .of_eq rfl rfl

theorem hears_noteTime (p : RunReader) (span : String) : Hears p [] (p.noteTime span) := by
  unfold noteTime
  split <;> exact .of_eq rfl rfl

theorem announce_eq (p : RunReader) (b : Bundle) :
    (p.announce b).reports =
        p.reports ++ (if p.runStarted then [] else b.numTests.toList.map .runStarted) ∧
      (p.announce b).runStarted = (p.runStarted || b.numTests.isSome) := by
  unfold announce
  cases hstarted : p.runStarted <;> cases b.numTests <;> simp [report, hstarted]

theorem outcome_eq (p : RunReader) (s : RunStatus) :
    let next := match s.bundle.className, s.bundle.testName with
      | some className, some testName =>
        p.outcome s.code ⟨className, testName⟩ (s.bundle.stack.getD "")
      | _, _ => p
    next.reports = p.reports ++ s.reports ∧ next.runStarted = p.runStarted := by
  unfold RunStatus.reports
  cases s.bundle.className with
  | none => exact ⟨(List.append_nil _).symm, rfl⟩
  | some className =>
    cases s.bundle.testName with
    | none => exact ⟨(List.append_nil _).symm, rfl⟩
    | some testName =>
      dsimp only
      unfold outcome
      split_ifs with hstart hpass hfail herror
      · simp [hstart, report]
      · simp [hpass, report, endTest]
      · simp [hfail, report, endTest, failTest]
      · simp [herror, report, endTest, failTest]
      · split <;> simp_all

/-- A status code completes a status, unless it is no number. -/
theorem hears_closeBundle (p : RunReader) (code : String) :
    Hears p ((Text.signed? code).map fun code => RunStatus.mk p.bundle code).toList
      (p.closeBundle code) := by
  unfold closeBundle
  cases Text.signed? code with
  | none => exact .of_eq rfl rfl
  | some code =>
    obtain ⟨hstart, hstarted⟩ := announce_eq { p with bundle := .empty } p.bundle
    obtain ⟨houtcome, hsame⟩ :=
      outcome_eq ({ p with bundle := .empty }.announce p.bundle) ⟨p.bundle, code⟩
    rw [hstart] at houtcome
    rw [hstarted] at hsame
    refine .of_append (houtcome.trans ?_) (hsame.trans ?_)
    · simp [story]
    · simp [isCounted]

theorem hears_line (p : RunReader) (text : String) :
    Hears p (p.status? text).toList (p.line text) := by
  have hseen : Hears p [] { p.closeKey with sawOutput := true } :=
    (hears_closeKey p).trans (.of_eq rfl rfl)
  unfold line status?
  cases RunLine.of text with
  | statusCode code => exact hseen.trans (hears_closeBundle _ code)
  | entry sect body => exact hseen.trans (hears_beginKey _ sect body)
  | closing => exact hseen
  | time span => exact (hears_closeKey p).trans (hears_noteTime _ span)
  | other rest => exact hears_continueKey p rest

theorem hears_lines (p : RunReader) (batch : List String) :
    Hears p (p.statuses batch) (p.lines batch) := by
  induction batch generalizing p with
  | nil => exact .of_eq rfl rfl
  | cons text batch ih => exact (hears_line p text).trans (ih (p.line text))

/-! ## Starts before tests -/

/-- Is nothing reported of a test before the start of the run is? -/
def StartsFirst (reports : List RunReport) : Prop :=
  ∀ r ∈ reports.takeWhile (·.announced?.isNone), r.isOfTest = false

theorem startsFirst_cons {r : RunReport} {reports : List RunReport} :
    StartsFirst (r :: reports) ↔
      r.announced?.isSome = true ∨ r.isOfTest = false ∧ StartsFirst reports := by
  cases h : r.announced? with
  | some count => simp [StartsFirst, h]
  | none => simp [StartsFirst, h]

theorem startsFirst_append {reports more : List RunReport} :
    StartsFirst (reports ++ more) ↔ StartsFirst reports ∧
      ((∃ r ∈ reports, r.announced?.isSome = true) ∨ StartsFirst more) := by
  induction reports with
  | nil => simp [StartsFirst]
  | cons r reports ih =>
    rw [List.cons_append, startsFirst_cons, startsFirst_cons, ih]
    by_cases hsome : r.announced?.isSome = true
    · simp [hsome]
    · simp [hsome, and_assoc]

theorem startsFirst_filter {reports : List RunReport} :
    StartsFirst (reports.filter (! ·.isRunFailed)) ↔ StartsFirst reports := by
  induction reports with
  | nil => simp
  | cons r reports ih =>
    cases r with
    | runFailed message =>
      rw [List.filter_cons_of_neg (by simp [RunReport.isRunFailed]), ih, startsFirst_cons]
      simp [RunReport.announced?, RunReport.isOfTest]
    | _ =>
      rw [List.filter_cons_of_pos (by simp [RunReport.isRunFailed]), startsFirst_cons, ih,
        startsFirst_cons]

theorem startsFirst_reports {s : RunStatus} : StartsFirst s.reports ↔ s.reports = [] := by
  constructor
  · intro h
    cases hreports : s.reports with
    | nil => rfl
    | cons r rest =>
      have hr : r.isOfTest = true := isOfTest_of_mem (hreports ▸ List.mem_cons_self)
      rw [hreports, startsFirst_cons, RunReport.announced?_of_isOfTest hr, hr] at h
      simp at h
  · intro h
    rw [h]
    simp [StartsFirst]

/-- The start comes first if the number of tests does. -/
theorem startsFirst_story (statuses : List RunStatus) :
    StartsFirst (story false statuses) ↔ CountFirst statuses := by
  induction statuses with
  | nil => simp [StartsFirst, CountFirst, story]
  | cons s statuses ih =>
    cases hcount : s.bundle.numTests with
    | some count =>
      have hleft : StartsFirst (story false (s :: statuses)) := by
        rw [story, hcount]
        exact startsFirst_cons.2 (.inl rfl)
      have hright : CountFirst (s :: statuses) := by
        simp [CountFirst, isCounted, hcount]
      exact iff_of_true hleft hright
    | none =>
      have hnone : ¬ ∃ r ∈ s.reports, r.announced?.isSome = true := by
        rintro ⟨r, hr, hsome⟩
        rw [RunReport.announced?_of_isOfTest (isOfTest_of_mem hr)] at hsome
        cases hsome
      have hleft : StartsFirst (story false (s :: statuses)) ↔
          s.reports = [] ∧ StartsFirst (story false statuses) := by
        rw [← startsFirst_reports]
        have hstory : story false (s :: statuses) = s.reports ++ story false statuses := by
          simp [story, isCounted, hcount]
        rw [hstory, startsFirst_append, or_iff_right hnone]
      have hright : CountFirst (s :: statuses) ↔ s.reports = [] ∧ CountFirst statuses := by
        simp [CountFirst, isCounted, hcount]
      rw [hleft, hright, ih]

theorem startsFirst_lines (batch : List String) :
    StartsFirst (new.lines batch).reports ↔ CountFirst (new.statuses batch) := by
  have hreports := (hears_lines new batch).reports
  rw [← startsFirst_filter, hreports]
  exact startsFirst_story _

/-! ## The end of a run -/

theorem mem_of_foldl_openAfter {reports : List RunReport} {current : Option TestId}
    {test : TestId} (h : reports.foldl openAfter current = some test) :
    current = some test ∨ .testStarted test ∈ reports := by
  induction reports generalizing current with
  | nil => exact .inl h
  | cons r reports ih =>
    rcases ih h with hnext | hmem
    · cases r with
      | testStarted other =>
        cases hnext
        exact .inr List.mem_cons_self
      | testEnded other => cases hnext
      | _ => exact .inl hnext
    · exact .inr (List.mem_cons_of_mem _ hmem)

theorem StartsFirst.exists_start {reports : List RunReport} (h : StartsFirst reports)
    {r : RunReport} (hr : r ∈ reports) (htest : r.isOfTest = true) :
    ∃ start ∈ reports, start.announced?.isSome = true := by
  induction reports with
  | nil => cases hr
  | cons first reports ih =>
    rcases startsFirst_cons.1 h with hstart | ⟨hfirst, hrest⟩
    · exact ⟨first, List.mem_cons_self, hstart⟩
    · rcases List.mem_cons.1 hr with rfl | hr
      · rw [htest] at hfirst
        cases hfirst
      · obtain ⟨start, hstart, hsome⟩ := ih hrest hr
        exact ⟨start, List.mem_cons_of_mem _ hstart, hsome⟩

/-- Before the start of a run no test is open, if the start comes first. -/
theorem current_of_startsFirst (h : p.Tally) (hfirst : StartsFirst p.reports)
    (hp : p.runStarted = false) : p.current = none := by
  cases hcurrent : p.current with
  | none => rfl
  | some test =>
    have hmem : .testStarted test ∈ p.reports :=
      (mem_of_foldl_openAfter (h.current.trans hcurrent)).resolve_left (by simp)
    obtain ⟨start, hstart, hsome⟩ := hfirst.exists_start hmem rfl
    obtain ⟨count, hcount⟩ := Option.isSome_iff_exists.1 hsome
    have hstarts := h.starts
    rw [hp] at hstarts
    have := List.mem_filterMap.2 ⟨start, hstart, hcount⟩
    rw [hstarts] at this
    cases this

/-- Without an open test nothing is reported of tests when a run ends, and its start is. -/
theorem prefix_perform_of_ending (hopen : p.closed = false) (hcurrent : p.current = none)
    {call : RunCall} (hcall : call.isEnding = true) :
    p.closing.ensureStarted.reports <+: (p.perform call).reports := by
  have hclosing : p.closing.current = none := (current_closing p).trans hcurrent
  cases call with
  | fail message =>
    have habandon : p.closing.abandonTest message = p.closing := by rw [abandonTest, hclosing]
    rw [perform, fail_of_open hopen, failing, habandon]
    exact (steps_reportFailure _ _).prefix_reports.trans (List.prefix_append ..)
  | finish =>
    rw [perform, finish_of_open hopen]
    exact (steps_started_finishing p).prefix_reports.trans (List.prefix_append ..)
  | _ => cases hcall

theorem startsFirst_closing (h : StartsFirst p.reports) :
    StartsFirst p.closing.ensureStarted.reports := by
  obtain ⟨_, _, _, told, heq, htold⟩ := closeKey_eq { p with closed := true }
  have hclosing : StartsFirst p.closing.reports := by
    rw [closing, heq]
    refine startsFirst_append.2 ⟨h, .inr fun r hr => ?_⟩
    have := htold r ((List.takeWhile_sublist _).subset hr)
    cases r <;> first | rfl | cases this
  unfold ensureStarted
  split_ifs
  · exact hclosing
  · exact startsFirst_append.2 ⟨hclosing, .inr (startsFirst_cons.2 (.inl rfl))⟩

theorem startsFirst_split {before after : List RunReport} {count : Nat}
    (h : ∀ r ∈ before, r.announced? = none) :
    StartsFirst (before ++ .runStarted count :: after) ↔ ∀ r ∈ before, r.isOfTest = false := by
  have hall : ∀ r ∈ before, r.announced?.isNone = true := fun r hr => by rw [h r hr]; rfl
  rw [StartsFirst, List.takeWhile_append_of_pos hall,
    List.takeWhile_cons_of_neg (by simp [RunReport.announced?]), List.append_nil]

/-- Once the start has come first, whatever comes later leaves it there. -/
theorem Tally.startsFirst_extend (h : p.Tally) (hfirst : StartsFirst p.reports)
    (hstarted : p.runStarted = true) {reports : List RunReport} (hp : p.reports <+: reports) :
    StartsFirst reports := by
  obtain ⟨more, rfl⟩ := hp
  exact startsFirst_append.2 ⟨hfirst, .inl ⟨_, h.mem_of_runStarted hstarted, rfl⟩⟩

theorem startsFirst_perform (h : p.Tally) (hopen : p.closed = false) {call : RunCall}
    (hcall : call.isEnding = true) :
    StartsFirst (p.perform call).reports ↔ StartsFirst p.reports := by
  obtain ⟨q, last, hsteps, -, heq⟩ :=
    perform_of_open hopen (show call.isClosing = true by simp [RunCall.isClosing, hcall])
  have hgrown : p.reports <+: (p.perform call).reports := by
    rw [heq]
    exact hsteps.prefix_reports.trans (List.prefix_append ..)
  constructor
  · intro hfirst
    obtain ⟨more, hmore⟩ := hgrown
    rw [← hmore, startsFirst_append] at hfirst
    exact hfirst.1
  · intro hfirst
    cases hstarted : p.runStarted with
    | true => exact h.startsFirst_extend hfirst hstarted hgrown
    | false =>
      have hbegun := h.closing.steps ((steps_closing p).trans (steps_ensureStarted _))
      have hcurrent := current_of_startsFirst h hfirst hstarted
      exact hbegun.startsFirst_extend (startsFirst_closing hfirst)
        (runStarted_ensureStarted _) (prefix_perform_of_ending hopen hcurrent hcall)

/-- **Main theorem.** The lines of a run are read, and the run is ended: by the end of the output or by
a failure of the command. Then its start is reported exactly once. No report of a test comes before it
exactly if the statuses to which the lines come tell the number of tests before they tell of any
test. -/
theorem start_of_ended_run (batch : List String) {call : RunCall} (hcall : call.isEnding = true) :
    ∃ before count after,
      ((new.lines batch).perform call).reports = before ++ .runStarted count :: after ∧
        (∀ r ∈ before ++ after, r.announced? = none) ∧
        ((∀ r ∈ before, r.isOfTest = false) ↔ CountFirst (new.statuses batch)) := by
  have hlawful : (new.lines batch).Lawful := lawful_new.steps (steps_lines new batch)
  have hopen : (new.lines batch).closed = false := (steps_lines new batch).closed_eq
  have htally := (hlawful.perform call).1.tally
  obtain ⟨told, count, elapsed, hreports, hmem⟩ := (hlawful.endsRun hopen hcall).ended
  have hfirst := (startsFirst_perform hlawful.tally hopen hcall).trans (startsFirst_lines batch)
  generalize (new.lines batch).perform call = p at htally hreports hfirst ⊢
  have hstarted : p.reports.filterMap (·.announced?) = [p.expected] := by
    have hstarts := htally.starts
    split_ifs at hstarts with hflag
    · exact hstarts
    · have hcount : count ∈ p.reports.filterMap (·.announced?) :=
        List.mem_filterMap.2 ⟨_, hreports ▸ List.mem_append_left _ hmem, rfl⟩
      rw [hstarts] at hcount
      cases hcount
  obtain ⟨before, start, after, hsplit, hbefore, hstart, hafter⟩ :=
    List.filterMap_eq_cons_iff.1 hstarted
  obtain ⟨count, rfl⟩ : ∃ count, start = .runStarted count := by
    cases start with
    | runStarted count => exact ⟨count, rfl⟩
    | _ => cases hstart
  refine ⟨before, count, after, hsplit, ?_, ?_⟩
  · intro r hr
    rcases List.mem_append.1 hr with hr | hr
    · exact hbefore r hr
    · exact List.filterMap_eq_nil_iff.1 hafter r hr
  · rw [← hfirst, hsplit, startsFirst_split hbefore]

/-- The lines of a status that names a test of one class. -/
def testBundle (test : String) (numTests : List String) (code : String) : List String :=
  ["INSTRUMENTATION_STATUS: class=com.A", "INSTRUMENTATION_STATUS: test=" ++ test] ++ numTests ++
    ["INSTRUMENTATION_STATUS_CODE: " ++ code]

theorem start_of_ended_run_counted :
    let batch := testBundle "one" ["INSTRUMENTATION_STATUS: numtests=1"] "1"
    (RunCall.fail "gone").isEnding = true ∧
      ∃ before count after,
        ((new.lines batch).perform (.fail "gone")).reports =
          before ++ .runStarted count :: after ∧
        (∀ r ∈ before, r.isOfTest = false) := by
  intro batch
  obtain ⟨before, count, after, hreports, -, hfirst⟩ :=
    start_of_ended_run batch (show (RunCall.fail "gone").isEnding = true from rfl)
  refine ⟨rfl, before, count, after, hreports, hfirst.2 ?_⟩
  decide +kernel

/-- A test whose bundle tells no number of tests starts and ends before the run starts. -/
theorem start_after_tests :
    let batch := testBundle "one" [] "1" ++ testBundle "one" [] "0"
    ((new.lines batch).perform .finish).reports =
      [.testStarted ⟨"com.A", "one"⟩, .testEnded ⟨"com.A", "one"⟩, .runStarted 0,
        .runEnded 0] := by
  decide +kernel

end RunReader

end DebugBridge
