import DebugBridge.Instrumentation.Printed
import Mathlib.Data.List.Nodup
import Mathlib.Tactic.Set
import Mathlib.Tactic.SplitIfs

/-!
# A printed run is reported test by test

A reader that is given the lines of a run, in batches of any sizes, reports the start of the run with
the number of its tests, then each test as it went, and at last the end of the run.

Between two lines the reader holds a value that may still go on. What it knows then is what
`RunReader.closeKey` makes of it, and in these terms an entry is read as a whole (`closeKey_entry`),
a bundle is read as its recognised keys (`lines_bundle`), and a test leaves the reader as it was
but for its reports and counts (`lines_opening`, `lines_closing`).

Results:
* `reports_of_printed`: the reports of a printed run, and the number of tests that have ended.
-/

namespace DebugBridge

/-! ## Telling lines apart -/

namespace RunLine

open Text

theorem of_statusCode (s : String) :
    RunLine.of ("INSTRUMENTATION_STATUS_CODE: " ++ s) = .statusCode (trimmed s) := by
  unfold RunLine.of
  rw [afterString?_append]

theorem of_entry (sect : Section) (s : String) :
    RunLine.of (Printed.lead sect ++ s) = .entry sect s := by
  unfold RunLine.of
  cases sect with
  | status =>
    rw [Printed.lead, afterString?_append_eq_none s (by decide) (by decide), afterString?_append]
  | result =>
    rw [Printed.lead, afterString?_append_eq_none s (by decide) (by decide),
      afterString?_append_eq_none s (by decide) (by decide), afterString?_append]

theorem of_code (s : String) : RunLine.of ("INSTRUMENTATION_CODE: " ++ s) = .closing := by
  unfold RunLine.of
  rw [afterString?_append_eq_none s (by decide) (by decide),
    afterString?_append_eq_none s (by decide) (by decide),
    afterString?_append_eq_none s (by decide) (by decide), afterString?_append]
  rfl

theorem of_time (s : String) : RunLine.of ("Time: " ++ s) = .time (trimmed s) := by
  unfold RunLine.of
  rw [afterString?_append_eq_none s (by decide) (by decide),
    afterString?_append_eq_none s (by decide) (by decide),
    afterString?_append_eq_none s (by decide) (by decide),
    afterString?_append_eq_none s (by decide) (by decide),
    afterString?_append_eq_none s (by decide) (by decide), afterString?_append]
  rfl

theorem of_plain {line : String} (h : Printed.Plain line) : RunLine.of line = .other line := by
  have hnone : ∀ lead ∈ Printed.leads, afterString? lead line = none := fun lead hl =>
    afterString?_eq_none (h lead hl)
  unfold RunLine.of
  rw [hnone _ (by decide), hnone _ (by decide), hnone _ (by decide), hnone _ (by decide),
    hnone _ (by decide), hnone _ (by decide)]
  rfl

end RunLine

/-- The bundle that some keys and values make. -/
def Bundle.ofFields (l : List (String × String)) : Bundle :=
  l.foldl (fun b f => b.put f.1 f.2) .empty

namespace RunReader

open Printed

variable {p : RunReader}

theorem lines_append (a b : List String) : p.lines (a ++ b) = (p.lines a).lines b :=
  List.foldl_append

/-! ## Entries -/

theorem cutAt_entry {key : String} (hkey : '=' ∉ key.toList) (value : String) :
    Text.cutAt '=' (key ++ "=" ++ value).toList = some (key.toList, value.toList) := by
  have hall : ∀ c ∈ key.toList, (c != '=') = true := fun c hc => by
    simpa using fun h : c = '=' => hkey (h ▸ hc)
  have hlist : (key ++ "=" ++ value).toList = key.toList ++ '=' :: value.toList := by simp
  rw [hlist]
  unfold Text.cutAt
  rw [List.dropWhile_append_of_pos hall, List.takeWhile_append_of_pos hall]
  simp

/-- Lines that go on are joined to the value. -/
theorem lines_plain {k : OpenKey} (hp : p.openKey = some k) {more : List String}
    (hmore : ∀ line ∈ more, Plain line) :
    p.lines more =
      { p with openKey := some { k with value := Text.join "\r\n" (k.value :: more) } } := by
  induction more generalizing p k with
  | nil => simp [lines, Text.join, String.intercalate_singleton, ← hp]
  | cons line more ih =>
    have hline : p.line line =
        { p with openKey := some { k with value := k.value ++ "\r\n" ++ line } } := by
      simp only [RunReader.line, RunLine.of_plain (hmore line List.mem_cons_self), continueKey, hp]
    have hstep : p.lines (line :: more) = (p.line line).lines more := rfl
    rw [hstep, hline, ih rfl fun l hl => hmore l (List.mem_cons_of_mem _ hl)]
    simp only [Text.join, String.intercalate_cons_cons, String.intercalate_cons_append]

theorem reportFailure_openKey (message : String) :
    (p.reportFailure message).openKey = p.openKey := by
  unfold reportFailure
  split_ifs <;> rfl

theorem submit_openKey (k : OpenKey) : (p.submit k).openKey = p.openKey := by
  unfold submit
  split_ifs
  · exact reportFailure_openKey _
  · split <;> rfl

theorem closeKey_openKey : p.closeKey.openKey = none := by
  unfold closeKey
  split
  · rw [submit_openKey]
  · assumption

/-- An entry is known as a whole once its value cannot go on any more. -/
theorem closeKey_entry (sect : Section) (e : Entry) :
    (p.lines (e.lines sect)).closeKey =
      { p.closeKey with sawOutput := true }.submit ⟨sect, e.key, e.value.text⟩ := by
  have hfirst : p.line (lead sect ++ (e.key ++ "=" ++ e.value.first)) =
      { p.closeKey with sawOutput := true, openKey := some ⟨sect, e.key, e.value.first⟩ } := by
    simp only [RunReader.line, RunLine.of_entry, beginKey, cutAt_entry e.noSign,
      String.ofList_toList]
  have hstep : p.lines (e.lines sect) =
      (p.line (lead sect ++ (e.key ++ "=" ++ e.value.first))).lines e.value.more := rfl
  rw [hstep, hfirst, lines_plain rfl e.value.plain, closeKey]
  have : ({ p.closeKey with sawOutput := true, openKey := none } : RunReader) =
      { p.closeKey with sawOutput := true } := by
    rw [← closeKey_openKey (p := p)]
  simp only [Value.text]
  rw [this]

theorem closeKey_entries (sect : Section) (entries : List Entry) :
    (p.lines (entries.flatMap (Entry.lines sect))).closeKey =
      entries.foldl (fun q e => { q with sawOutput := true }.submit ⟨sect, e.key, e.value.text⟩)
        p.closeKey := by
  induction entries generalizing p with
  | nil => rfl
  | cons e entries ih => rw [List.flatMap_cons, lines_append, ih, closeKey_entry]; rfl

/-- Entries of the result leave nothing behind, unless they tell of a failure. -/
theorem closeKey_results {entries : List Entry}
    (h : ∀ e ∈ entries, e.key ≠ "Error" ∧ e.key ≠ "shortMsg") :
    ({ (p.lines (entries.flatMap (Entry.lines .result))).closeKey with sawOutput := true } :
      RunReader) = { p.closeKey with sawOutput := true } := by
  rw [closeKey_entries]
  generalize p.closeKey = q
  induction entries generalizing q with
  | nil => rfl
  | cons e entries ih =>
    have he := h e List.mem_cons_self
    rw [List.foldl_cons, ih fun x hx => h x (List.mem_cons_of_mem _ hx)]
    simp [submit, he]

/-! ## Bundles -/

theorem put_comm {k k' : String} (h : k ≠ k') (b : Bundle) (v v' : String) :
    (b.put k v).put k' v' = (b.put k' v').put k v := by
  simp only [Bundle.put, Bundle.mk.injEq]
  refine ⟨?_, ?_, ?_, ?_⟩ <;>
  · split_ifs with h1 h2
    · exact absurd (h2.trans h1.symm) h
    all_goals rfl

theorem put_other {e : Entry} (h : recognised.contains e.key = false) (b : Bundle) :
    b.put e.key e.value.text = b := by
  simp only [recognised, List.contains_eq_mem, decide_eq_false_iff_not, List.mem_cons,
    not_or] at h
  obtain ⟨h1, h2, h3, h4, -⟩ := h
  simp [Bundle.put, h1, h2, h3, h4]

/-- A bundle is what its recognised keys make of it. -/
theorem foldl_put_fields (entries : List Entry) (b : Bundle) :
    entries.foldl (fun b e => b.put e.key e.value.text) b =
      (fields entries).foldl (fun b f => b.put f.1 f.2) b := by
  induction entries generalizing b with
  | nil => rfl
  | cons e entries ih =>
    rw [List.foldl_cons, ih]
    cases hr : recognised.contains e.key with
    | true => simp only [fields, List.filter_cons, hr, if_true, List.map_cons, List.foldl_cons]
    | false =>
      rw [put_other hr]
      simp only [fields, List.filter_cons, hr, Bool.false_eq_true, if_false]

theorem foldl_put_perm {l l' : List (String × String)} (h : l.Perm l')
    (hkeys : (l'.map (·.1)).Nodup) (b : Bundle) :
    l.foldl (fun b f => b.put f.1 f.2) b = l'.foldl (fun b f => b.put f.1 f.2) b := by
  refine h.foldl_eq' (fun x hx y hy b => ?_) b
  by_cases hxy : x.1 = y.1
  · rw [List.inj_on_of_nodup_map hkeys (h.mem_iff.1 hx) (h.mem_iff.1 hy) hxy]
  · exact (put_comm hxy b x.2 y.2)

theorem no_failure_of_perm {entries : List Entry} {l : List (String × String)}
    (h : (fields entries).Perm l) (hl : ∀ f ∈ l, f.1 ≠ "Error" ∧ f.1 ≠ "shortMsg") :
    ∀ e ∈ entries, e.key ≠ "Error" ∧ e.key ≠ "shortMsg" := by
  intro e he
  have hmem : recognised.contains e.key = true → e.key ≠ "Error" ∧ e.key ≠ "shortMsg" := fun hr =>
    hl (e.key, e.value.text) (h.mem_iff.1 (List.mem_map.2 ⟨e, List.mem_filter.2 ⟨he, hr⟩, rfl⟩))
  constructor
  · intro hk
    exact (hmem (by rw [hk]; decide)).1 hk
  · intro hk
    exact (hmem (by rw [hk]; decide)).2 hk

/-- Entries of a bundle go into the bundle, unless they tell of a failure. -/
theorem closeKey_status {entries : List Entry}
    (h : ∀ e ∈ entries, e.key ≠ "Error" ∧ e.key ≠ "shortMsg") :
    ({ (p.lines (entries.flatMap (Entry.lines .status))).closeKey with sawOutput := true } :
      RunReader) =
      { p.closeKey with
        sawOutput := true
        bundle := (fields entries).foldl (fun b f => b.put f.1 f.2) p.closeKey.bundle } := by
  rw [closeKey_entries, ← foldl_put_fields]
  generalize p.closeKey = q
  induction entries generalizing q with
  | nil => rfl
  | cons e entries ih =>
    have he := h e List.mem_cons_self
    rw [List.foldl_cons, ih fun x hx => h x (List.mem_cons_of_mem _ hx)]
    simp [submit, he]

theorem lines_bundle {entries : List Entry} {l : List (String × String)}
    (hp : p.openKey = none) (hb : p.bundle = .empty) (h : (fields entries).Perm l)
    (hkeys : (l.map (·.1)).Nodup) (hl : ∀ f ∈ l, f.1 ≠ "Error" ∧ f.1 ≠ "shortMsg") (code : Int) :
    p.lines (Printed.bundle entries code) =
      { p with sawOutput := true, bundle := .ofFields l }.closeBundle
        (Text.trimmed (toString code)) := by
  have hclosed : p.closeKey = p := by rw [closeKey, hp]
  have hcode : ∀ q : RunReader, q.line ("INSTRUMENTATION_STATUS_CODE: " ++ toString code) =
      { q.closeKey with sawOutput := true }.closeBundle (Text.trimmed (toString code)) := by
    intro q
    simp only [RunReader.line, RunLine.of_statusCode]
  have hlast : ∀ q : RunReader, ∀ line, q.lines [line] = q.line line := fun _ _ => rfl
  rw [Printed.bundle, lines_append, hlast, hcode, closeKey_status (no_failure_of_perm h hl),
    hclosed, hb, foldl_put_perm h hkeys, Bundle.ofFields]

/-! ## Tests -/

theorem ofFields_identity {n : Nat} (hn : n < UInt32.size) (id : TestId)
    (failure : Option (TestFailure × String)) :
    Bundle.ofFields (identity n id ++ failure.toList.map fun f => ("stack", f.2)) =
      ⟨some id.testName, some id.className, failure.map (·.2), some n⟩ := by
  have hword : Text.word? (Text.trimmed n.repr) = some (UInt32.ofNat n) := by
    rw [show n.repr = toString n from rfl, Text.trimmed_toString, Text.word?_toString hn]
  have hcount : (UInt32.ofNat n).toNat = n := UInt32.toNat_ofNat_of_lt' hn
  cases failure with
  | none => simp [Bundle.ofFields, identity, Bundle.put, Bundle.empty, hword, hcount]
  | some f => simp [Bundle.ofFields, identity, Bundle.put, Bundle.empty, hword, hcount]

/-- The reader between two tests of a run of `n` tests. -/
def between (n : Nat) (past : List (Test n)) : RunReader :=
  if past = [] then .new
  else { RunReader.new with
    sawOutput := true, runStarted := true, expected := n, ended := past.length
    reports := .runStarted n :: past.flatMap Test.reports }

variable {n : Nat}

/-- The reader within a test, of which the first bundle has been read. -/
def within (past : List (Test n)) (t : Test n) : RunReader :=
  { RunReader.new with
    sawOutput := true, runStarted := true, expected := n, ended := past.length
    current := some t.id
    reports := .runStarted n :: past.flatMap Test.reports ++ [.testStarted t.id] }

theorem lines_opening (hn : n < UInt32.size) (past : List (Test n)) (t : Test n) :
    (between n past).lines (Printed.bundle t.opening 1) = within past t := by
  have hfields : Bundle.ofFields (identity n t.id) =
      ⟨some t.id.testName, some t.id.className, none, some n⟩ := by
    simpa using ofFields_identity hn t.id none
  have hcode : Text.signed? (Text.trimmed (toString (1 : Int))) = some 1 := by decide
  have hopen : (between n past).openKey = none := by unfold between; split_ifs <;> rfl
  have hempty : (between n past).bundle = .empty := by unfold between; split_ifs <;> rfl
  rw [lines_bundle hopen hempty t.opening_fields (by simp [identity]) (by simp [identity]), hfields,
    closeBundle, hcode]
  unfold between
  split_ifs with hpast
  · subst hpast; rfl
  · rfl

theorem signed?_code (t : Test n) :
    Text.signed? (Text.trimmed (toString t.code)) = some t.code := by
  have hcodes : ∀ code : Int, code = 0 ∨ code = -1 ∨ code = -2 →
      Text.signed? (Text.trimmed (toString code)) = some code := by
    rintro code (rfl | rfl | rfl) <;> decide
  apply hcodes
  unfold Test.code
  rcases t.failure with - | ⟨kind, trace⟩
  · simp
  · cases kind <;> simp

theorem outcome_code (t : Test n) :
    p.outcome t.code t.id ((t.failure.map (·.2)).getD "") =
      { p with
        ended := p.ended + 1
        current := none
        reports := p.reports ++
          ((t.failure.toList.map fun f => RunReport.testFailed f.1 t.id f.2) ++
            [.testEnded t.id]) } := by
  unfold Test.code
  rcases t.failure with - | ⟨kind, trace⟩
  · simp [outcome, endTest, report]
  · cases kind <;> simp [outcome, failTest, endTest, report]

theorem lines_closing (hn : n < UInt32.size) (past : List (Test n)) (t : Test n) :
    (within past t).lines (Printed.bundle t.closing t.code) = between n (past ++ [t]) := by
  have hkeys : ((identity n t.id ++
      t.failure.toList.map fun f => ("stack", f.2)).map (·.1)).Nodup := by
    cases t.failure <;> simp [identity]
  have hfail : ∀ f ∈ identity n t.id ++ t.failure.toList.map fun f => ("stack", f.2),
      f.1 ≠ "Error" ∧ f.1 ≠ "shortMsg" := by
    cases t.failure <;> simp [identity]
  rw [lines_bundle rfl rfl t.closing_fields hkeys hfail, ofFields_identity hn, closeBundle,
    signed?_code]
  have hid : (⟨t.id.className, t.id.testName⟩ : TestId) = t.id := rfl
  simp only [announce, within, hid, outcome_code]
  simp [between, Test.reports, RunReader.new]

theorem lines_tests (hn : n < UInt32.size) (past tests : List (Test n)) :
    (between n past).lines (tests.flatMap Test.lines) = between n (past ++ tests) := by
  induction tests generalizing past with
  | nil => simp [lines]
  | cons t tests ih =>
    rw [List.flatMap_cons, lines_append, Test.lines, lines_append, lines_opening hn,
      lines_closing hn, ih, List.append_assoc]
    rfl

/-! ## The end of a run -/

theorem lines_remarks (hp : p.openKey = none) {remarks : List String}
    (h : ∀ line ∈ remarks, Plain line) : p.lines remarks = p := by
  induction remarks with
  | nil => rfl
  | cons line remarks ih =>
    have hline : p.line line = p := by
      simp only [RunReader.line, RunLine.of_plain (h line List.mem_cons_self), continueKey, hp]
    have hstep : p.lines (line :: remarks) = (p.line line).lines remarks := rfl
    rw [hstep, hline, ih fun l hl => h l (List.mem_cons_of_mem _ hl)]

theorem noteTime_openKey (span : String) : (p.noteTime span).openKey = p.openKey := by
  unfold noteTime
  split <;> rfl

theorem noteTime_eq (span : String) :
    ({ p.noteTime span with sawOutput := true } : RunReader) =
      { ({ p with sawOutput := true } : RunReader) with
        elapsed := (Text.millisOfSeconds? (span.toList.filter (· != ','))).getD
          ({ p with sawOutput := true } : RunReader).elapsed } := by
  unfold noteTime
  split <;> simp [*]

theorem lines_epilogue (hp : p.openKey = none) (helapsed : p.elapsed = 0) (e : Epilogue) :
    p.lines e.lines = { p with sawOutput := true, elapsed := e.elapsed } := by
  have hclosed : ∀ q : RunReader, q.openKey = none → q.closeKey = q := fun q hq => by
    rw [closeKey, hq]
  set q := p.lines (e.results.flatMap (Entry.lines .result)) with hq
  have hresults : ({ q.closeKey with sawOutput := true } : RunReader) =
      { p with sawOutput := true } := by
    rw [hq, closeKey_results e.noFailure, hclosed p hp]
  have htime : q.lines ["Time: " ++ e.span] = q.closeKey.noteTime (Text.trimmed e.span) := by
    show q.line _ = _
    simp only [RunReader.line, RunLine.of_time]
  have hopen : (q.closeKey.noteTime (Text.trimmed e.span)).openKey = none := by
    rw [noteTime_openKey, closeKey_openKey]
  have hcode : ∀ r : RunReader, r.lines ["INSTRUMENTATION_CODE: " ++ e.code] =
      { r.closeKey with sawOutput := true } := by
    intro r
    show r.line _ = _
    simp only [RunReader.line, RunLine.of_code]
  rw [Epilogue.lines, lines_append, lines_append, lines_append, ← hq, htime,
    lines_remarks hopen e.plain, hcode, hclosed _ hopen, noteTime_eq, hresults]
  simp only [helapsed, Epilogue.elapsed]

theorem finish_between (tests : List (Test n)) (hlength : tests.length = n) (elapsed : Nat) :
    let p := { between n tests with sawOutput := true, elapsed }.finish
    p.reports = .runStarted n :: tests.flatMap Test.reports ++ [.runEnded elapsed] ∧
      p.ended = n := by
  by_cases hnone : tests = []
  · subst hnone
    obtain rfl : n = 0 := hlength.symm
    exact ⟨rfl, rfl⟩
  · simp [between, hnone, finish, closeKey, ensureStarted, report, RunReader.new, hlength]

/-- **Main theorem.** Some tests are run and what is printed of them, `n` being their number, reaches a
reader in batches of any sizes. Then it reports the start of a run of `n` tests, each test in order with
its failure and trace if it has failed, and the end of the run, and nothing else. It counts `n` tests. -/
theorem reports_of_printed (tests : List (Test n)) (hlength : tests.length = n)
    (hn : n < UInt32.size) (e : Epilogue) (batches : List (List String))
    (hbatches : batches.flatten = tests.flatMap Test.lines ++ e.lines) :
    let p := Receiver.testRun.flush (Receiver.testRun.acceptAll .new batches)
    p.reports = .runStarted n :: tests.flatMap Test.reports ++ [.runEnded e.elapsed] ∧
      p.ended = n := by
  have hlines : Receiver.testRun.acceptAll .new batches = RunReader.new.lines batches.flatten :=
    List.foldl_flatten.symm
  have hopen : (between n tests).openKey = none := by unfold between; split_ifs <;> rfl
  have helapsed : (between n tests).elapsed = 0 := by unfold between; split_ifs <;> rfl
  have hbegin : RunReader.new = between n [] := rfl
  rw [hlines, hbatches, hbegin, lines_append, lines_tests hn, List.nil_append,
    lines_epilogue hopen helapsed]
  exact finish_between tests hlength e.elapsed

end RunReader

namespace Printed

/-- An entry on one line. -/
def Entry.single (key line : String) (noSign : '=' ∉ key.toList) : Entry :=
  ⟨key, ⟨line, [], fun _ h => absurd h List.not_mem_nil⟩, noSign⟩

/-- A run of two tests, of which the second fails; its trace has two lines. -/
def twoTests : List (Test 2) :=
  [{ id := ⟨"com.A", "one"⟩
     failure := none
     opening :=
      [.single "numtests" "2" (by decide), .single "test" "one" (by decide),
        ⟨"stream", ⟨"", ["com.A:"], by decide⟩, by decide⟩, .single "class" "com.A" (by decide)]
     closing :=
      [.single "class" "com.A" (by decide), .single "current" "1" (by decide),
        .single "test" "one" (by decide), .single "numtests" "2" (by decide)]
     opening_fields := by decide
     closing_fields := by decide },
   { id := ⟨"com.B", "x=y"⟩
     failure := some (.failure, "expected 1\r\nat B.java:3")
     opening :=
      [.single "class" "com.B" (by decide), .single "test" "x=y" (by decide),
        .single "numtests" "2" (by decide)]
     closing :=
      [⟨"stack", ⟨"expected 1", ["at B.java:3"], by decide⟩, by decide⟩,
        .single "class" "com.B" (by decide), .single "test" "x=y" (by decide),
        .single "numtests" "2" (by decide)]
     opening_fields := by decide
     closing_fields := by decide }]

/-- The end of that run. -/
def twoTestsEnd : Epilogue where
  results := [⟨"stream", ⟨"", ["Results for Runner=.F"], by decide⟩, by decide⟩]
  span := "0.5"
  remarks := ["", "FAILURES!!!"]
  code := "-1"
  noFailure := by decide
  plain := by decide

end Printed

open Printed in
theorem RunReader.reports_of_two_tests :
    let all := twoTests.flatMap Test.lines ++ twoTestsEnd.lines
    twoTests.length = 2 ∧ 2 < UInt32.size ∧ [all.take 3, all.drop 3].flatten = all ∧
      (Receiver.testRun.flush (Receiver.testRun.acceptAll .new [all.take 3, all.drop 3])).reports =
        [.runStarted 2, .testStarted ⟨"com.A", "one"⟩, .testEnded ⟨"com.A", "one"⟩,
          .testStarted ⟨"com.B", "x=y"⟩,
          .testFailed .failure ⟨"com.B", "x=y"⟩ "expected 1\r\nat B.java:3",
          .testEnded ⟨"com.B", "x=y"⟩, .runEnded twoTestsEnd.elapsed] := by
  intro all
  have hcut : [all.take 3, all.drop 3].flatten = all := by simp
  exact ⟨rfl, by decide, hcut, (reports_of_printed twoTests rfl (by decide) twoTestsEnd _ hcut).1⟩

end DebugBridge
