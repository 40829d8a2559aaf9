import DebugBridge.Shell.Receiver
import DebugBridge.Text.Decimal

/-!
# Reading the output of test runs

An instrumentation prints one bundle of `key=value` lines after another. A value may go on over
several lines: a line without a known lead belongs to the value before it. A status code closes a
bundle and tells what became of the test named in it.

`RunReader` reads the lines one by one and reports the progress of the run as a list of
`RunReport`s. A run is closed once, by the end of the output (`finish`), by a failure of the command
(`fail`) or after a cancellation (`stop`).
-/

namespace DebugBridge

/-- A test method. -/
structure TestId where
  /-- The class that holds it. -/
  className : String
  /-- The method. -/
  testName : String
  deriving Repr, DecidableEq, Inhabited

/-- A test in words. -/
def TestId.text (t : TestId) : String := s!"{t.className}#{t.testName}"

/-- How a test failed. -/
inductive TestFailure
  /-- An assertion failed. -/
  | failure
  /-- The test broke off, or never ended. -/
  | error
  deriving Repr, DecidableEq, Inhabited

/-- A report on the progress of a test run; times are in milliseconds. -/
inductive RunReport
  | runStarted (count : Nat)
  | testStarted (test : TestId)
  | testFailed (kind : TestFailure) (test : TestId) (trace : String)
  | testEnded (test : TestId)
  | runFailed (message : String)
  | runStopped (elapsed : Nat)
  | runEnded (elapsed : Nat)
  deriving Repr, DecidableEq, Inhabited

/-! ## Lines -/

/-- Where a key stands. -/
inductive Section
  | status
  | result
  deriving Repr, DecidableEq, Inhabited

/-- A line by its lead. -/
inductive RunLine
  /-- The code that closes a bundle. -/
  | statusCode (code : String)
  /-- A key of a bundle or of the result, with what follows the lead. -/
  | entry (sect : Section) (body : String)
  /-- The code of the whole run, or the notice that it failed. -/
  | closing
  /-- The time that the run took. -/
  | time (span : String)
  /-- A line without a lead. -/
  | other (line : String)
  deriving Repr, DecidableEq

/-- Tells the kind of a line. -/
def RunLine.of (line : String) : RunLine :=
  match Text.afterString? "INSTRUMENTATION_STATUS_CODE: " line with
  | some rest => .statusCode (Text.trimmed rest)
  | none =>
  match Text.afterString? "INSTRUMENTATION_STATUS: " line with
  | some rest => .entry .status rest
  | none =>
  match Text.afterString? "INSTRUMENTATION_RESULT: " line with
  | some rest => .entry .result rest
  | none =>
  if (Text.afterString? "INSTRUMENTATION_CODE: " line).isSome
      || (Text.afterString? "INSTRUMENTATION_FAILED: " line).isSome then .closing
  else match Text.afterString? "Time: " line with
    | some rest => .time (Text.trimmed rest)
    | none => .other line

/-! ## The reader -/

/-- A value that may still go on. -/
structure OpenKey where
  /-- Where its key stands. -/
  sect : Section
  /-- Its key. -/
  key : String
  /-- The value so far. -/
  value : String
  deriving Repr, DecidableEq

/-- What the next status code will close. -/
structure Bundle where
  /-- The test method. -/
  testName : Option String
  /-- The class that holds it. -/
  className : Option String
  /-- The trace of a failure. -/
  stack : Option String
  /-- The number of tests in the run. -/
  numTests : Option Nat
  deriving Repr, DecidableEq, Inhabited

/-- Nothing read of a bundle. -/
def Bundle.empty : Bundle := ⟨none, none, none, none⟩

/-- Notes the value of a key. A number of tests that is no number is passed over, and so are other
keys. -/
def Bundle.put (b : Bundle) (key value : String) : Bundle where
  testName := if key = "test" then some value else b.testName
  className := if key = "class" then some value else b.className
  stack := if key = "stack" then some value else b.stack
  numTests :=
    if key = "numtests" then
      ((Text.word? (Text.trimmed value)).map UInt32.toNat).or b.numTests
    else b.numTests

/-- The reader of a run's output. -/
structure RunReader where
  /-- The value that may still go on. -/
  openKey : Option OpenKey
  /-- The bundle that has been begun. -/
  bundle : Bundle
  /-- Was any line recognised? -/
  sawOutput : Bool
  /-- Has the start of the run been reported? -/
  runStarted : Bool
  /-- Has a failure of the run been reported? -/
  runFailed : Bool
  /-- Is the run closed? -/
  closed : Bool
  /-- The number of tests announced. -/
  expected : Nat
  /-- The number of tests that have ended. -/
  ended : Nat
  /-- The test that has started and not ended. -/
  current : Option TestId
  /-- The time that the run took, in milliseconds. -/
  elapsed : Nat
  /-- Has the run been cancelled? -/
  cancelled : Bool
  /-- The reports so far, oldest first. -/
  reports : List RunReport
  deriving Repr, DecidableEq, Inhabited

namespace RunReader

/-- Nothing read. -/
def new : RunReader := ⟨none, .empty, false, false, false, false, 0, 0, none, 0, false, []⟩

/-- Adds a report. -/
def report (p : RunReader) (r : RunReport) : RunReader := { p with reports := p.reports ++ [r] }

/-- Reports that the run failed, unless that has been reported. -/
def reportFailure (p : RunReader) (message : String) : RunReader :=
  if p.runFailed then p else { p.report (.runFailed message) with runFailed := true }

/-- Reports that a run without announced tests has started, unless a start has been reported. -/
def ensureStarted (p : RunReader) : RunReader :=
  if p.runStarted then p else { p.report (.runStarted 0) with runStarted := true }

/-- Reports that a test has ended. -/
def endTest (p : RunReader) (test : TestId) : RunReader :=
  { p.report (.testEnded test) with ended := p.ended + 1, current := none }

/-- Reports that a test has failed and ended. -/
def failTest (p : RunReader) (kind : TestFailure) (test : TestId) (trace : String) : RunReader :=
  (p.report (.testFailed kind test trace)).endTest test

/-- Fails the test that has started and not ended, if there is one. -/
def abandonTest (p : RunReader) (message : String) : RunReader :=
  match p.current with
  | some test =>
    p.failTest .error test s!"Test failed to run to completion. Reason: '{message}'"
  | none => p

/-- Puts a complete value where it belongs. -/
def submit (p : RunReader) (k : OpenKey) : RunReader :=
  if k.key = "Error" ∨ k.key = "shortMsg" then p.reportFailure (Text.trimmed k.value)
  else match k.sect with
    | .status => { p with bundle := p.bundle.put k.key k.value }
    | .result => p

/-- Ends the value that may still go on. -/
def closeKey (p : RunReader) : RunReader :=
  match p.openKey with
  | some k => { p with openKey := none }.submit k
  | none => p

/-- Begins a value; without `=` there is no key. -/
def beginKey (p : RunReader) (sect : Section) (body : String) : RunReader :=
  match Text.cutAt '=' body.toList with
  | some (key, value) => { p with openKey := some ⟨sect, String.ofList key, String.ofList value⟩ }
  | none => p

/-- Adds a line to the value that may still go on. -/
def continueKey (p : RunReader) (line : String) : RunReader :=
  match p.openKey with
  | some k => { p with openKey := some { k with value := k.value ++ "\r\n" ++ line } }
  | none => p

/-- Reports the start of the run when the first bundle with a number of tests closes. -/
def announce (p : RunReader) (b : Bundle) : RunReader :=
  match p.runStarted, b.numTests with
  | false, some n => { p.report (.runStarted n) with runStarted := true, expected := n }
  | _, _ => p

/-- Reports what became of a test, by its status code. -/
def outcome (p : RunReader) (code : Int) (test : TestId) (trace : String) : RunReader :=
  if code = 1 then { p.report (.testStarted test) with current := some test }
  else if code = 0 then p.endTest test
  else if code = -2 then p.failTest .failure test trace
  else if code = -1 then p.failTest .error test trace
  else p

/-- Closes the bundle with a status code; a code that is no number only drops the bundle. -/
def closeBundle (p : RunReader) (code : String) : RunReader :=
  let b := p.bundle
  let p := { p with bundle := .empty }
  match Text.signed? code with
  | none => p
  | some code =>
    let p := p.announce b
    match b.className, b.testName with
    | some className, some testName => p.outcome code ⟨className, testName⟩ (b.stack.getD "")
    | _, _ => p

/-- Notes the time of the run, if it is one. Commas in it are skipped. -/
def noteTime (p : RunReader) (span : String) : RunReader :=
  match Text.millisOfSeconds? (span.toList.filter (· != ',')) with
  | some ms => { p with sawOutput := true, elapsed := ms }
  | none => p

/-- Reads one line. -/
def line (p : RunReader) (text : String) : RunReader :=
  match RunLine.of text with
  | .statusCode code => { p.closeKey with sawOutput := true }.closeBundle code
  | .entry sect body => { p.closeKey with sawOutput := true }.beginKey sect body
  | .closing => { p.closeKey with sawOutput := true }
  | .time span => p.closeKey.noteTime span
  | .other text => p.continueKey text

/-- Reads lines. -/
def lines (p : RunReader) (batch : List String) : RunReader := batch.foldl line p

/-! ## The end of a run -/

/-- The message of a run without any output that was recognised. -/
def noResults : String := "No test results"

/-- Closes the run at the end of its output. A run with tests missing has failed. -/
def finish (p : RunReader) : RunReader :=
  if p.closed then p
  else
    let p := { p with closed := true }.closeKey.ensureStarted
    let p :=
      if ! p.sawOutput then p.reportFailure noResults
      else if p.current.isSome || p.ended < p.expected then
        let message :=
          s!"Test run incomplete. Expected {p.expected} tests, received {p.ended}"
        (p.abandonTest message).reportFailure message
      else p
    p.report (.runEnded p.elapsed)

/-- Closes a run whose command failed. -/
def fail (p : RunReader) (message : String) : RunReader :=
  if p.closed then p
  else
    let p := ({ p with closed := true }.closeKey.abandonTest message).ensureStarted
    let p := p.reportFailure message
    p.report (.runEnded p.elapsed)

/-- Closes a run that was cancelled. -/
def stop (p : RunReader) : RunReader :=
  if p.closed then p
  else
    let p := { p with closed := true }.closeKey
    p.report (.runStopped p.elapsed)

/-- Asks the command to stop. -/
def cancel (p : RunReader) : RunReader := { p with cancelled := true }

end RunReader

/-- Reads the output of a test run. -/
def Receiver.testRun : Receiver RunReader :=
  ⟨RunReader.lines, fun p => (p.cancelled, p), RunReader.finish⟩

end DebugBridge
