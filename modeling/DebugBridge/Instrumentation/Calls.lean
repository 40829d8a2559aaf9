import DebugBridge.Instrumentation.Parser

/-!
# Calls on the reader of a run

What can be asked of a reader, as values, so that any history of a reader is a list of calls. Three of
them close the run; of these, two end it and one tells that it was stopped.
-/

namespace DebugBridge

/-! ## Kinds of reports -/

namespace RunReport

/-- The number of tests with which a run starts. -/
def announced? : RunReport → Option Nat
  | .runStarted count => some count
  | _ => none

/-- Does a report tell that the run failed? -/
def isRunFailed : RunReport → Bool
  | .runFailed _ => true
  | _ => false

/-- Does a report tell that a test has ended? -/
def isTestEnded : RunReport → Bool
  | .testEnded _ => true
  | _ => false

end RunReport

/-! ## Calls -/

/-- A call on a reader. -/
inductive RunCall
  | lines (batch : List String)
  | fail (message : String)
  | finish
  | stop
  | cancel
  deriving Repr, DecidableEq, Inhabited

namespace RunCall

/-- Does the call end the run? -/
def isEnding : RunCall → Bool
  | .fail _ | .finish => true
  | _ => false

/-- Does the call close the run? -/
def isClosing (call : RunCall) : Bool := call.isEnding || call == .stop

end RunCall

namespace RunReader

/-- The reader after a call. -/
def perform (p : RunReader) : RunCall → RunReader
  | .lines batch => p.lines batch
  | .fail message => p.fail message
  | .finish => p.finish
  | .stop => p.stop
  | .cancel => p.cancel

/-- The reader after some calls. -/
def performAll (p : RunReader) (calls : List RunCall) : RunReader := calls.foldl perform p

end RunReader

end DebugBridge
