import DebugBridge.Instrumentation.Calls

/-!
# The statuses of a run

A status is a bundle with the code that has closed it. The lines of a run come to a list of statuses, and
these alone decide what is reported of the start of the run and of its tests (`RunStatus.story`).
-/

namespace DebugBridge

/-- Does a report concern a test? -/
def RunReport.isOfTest : RunReport → Bool
  | .testStarted _ | .testFailed .. | .testEnded _ => true
  | _ => false

/-- Does a report tell that a test starts, or that it has ended? -/
def RunReport.isTurn : RunReport → Bool
  | .testStarted _ | .testEnded _ => true
  | _ => false

/-- A bundle and the code that has closed it. -/
structure RunStatus where
  /-- The bundle. -/
  bundle : Bundle
  /-- The code. -/
  code : Int
  deriving Repr, DecidableEq, Inhabited

namespace RunStatus

/-- What a status tells of a test, if it names one. -/
def reports (s : RunStatus) : List RunReport :=
  match s.bundle.className, s.bundle.testName with
  | some className, some testName =>
    let test : TestId := ⟨className, testName⟩
    let trace := s.bundle.stack.getD ""
    match s.code with
    | 1 => [.testStarted test]
    | 0 => [.testEnded test]
    | -2 => [.testFailed .failure test trace, .testEnded test]
    | -1 => [.testFailed .error test trace, .testEnded test]
    | _ => []
  | _, _ => []

/-- Does a status tell the number of tests? -/
def isCounted (s : RunStatus) : Bool := s.bundle.numTests.isSome

/-- What statuses tell of a run, whose start may have been reported: the first number of tests is told
as its start. -/
def story (started : Bool) : List RunStatus → List RunReport
  | [] => []
  | s :: rest =>
    (if started then [] else s.bundle.numTests.toList.map .runStarted) ++ s.reports ++
      story (started || s.isCounted) rest

/-- Is nothing told of a test before the number of tests is? -/
def CountFirst (statuses : List RunStatus) : Prop :=
  ∀ s ∈ statuses.takeWhile (! ·.isCounted), s.reports = []

instance (statuses : List RunStatus) : Decidable (CountFirst statuses) :=
  inferInstanceAs (Decidable (∀ s ∈ statuses.takeWhile (! ·.isCounted), s.reports = []))

/-- The starts and ends of tests that statuses tell. -/
def turns (statuses : List RunStatus) : List RunReport :=
  (statuses.flatMap reports).filter (·.isTurn)

end RunStatus

namespace RunReader

/-- The status that a line completes. -/
def status? (p : RunReader) (text : String) : Option RunStatus :=
  match RunLine.of text with
  | .statusCode code => (Text.signed? code).map fun code => ⟨p.closeKey.bundle, code⟩
  | _ => none

/-- The statuses that lines complete, in order. -/
def statuses (p : RunReader) : List String → List RunStatus
  | [] => []
  | text :: batch => (p.status? text).toList ++ (p.line text).statuses batch

end RunReader

end DebugBridge
