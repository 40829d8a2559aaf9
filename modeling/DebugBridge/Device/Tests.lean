import DebugBridge.Device.Handle
import DebugBridge.Instrumentation.Parser
import DebugBridge.Instrumentation.Request

/-!
# Test runs on devices

A test run is a command whose output is read as a run's. It may be cancelled from outside at any
moment; that is noticed when the run next looks, which it does after each read of output and once
more after the command has ended well.
-/

namespace DebugBridge

/-- A test run under way. -/
structure TestRun where
  /-- What has been read of it. -/
  reader : RunReader
  /-- How often the run still looks without noticing that it has been cancelled; none if it is never
  cancelled. -/
  untilCancelled : Option Nat
  deriving Repr, DecidableEq

namespace TestRun

/-- Looks whether the run has been cancelled. -/
def look (t : TestRun) : Bool × TestRun :=
  match t.untilCancelled with
  | some 0 => (true, { t with reader := t.reader.cancel })
  | some (n + 1) => (false, { t with untilCancelled := some n })
  | none => (false, t)

/-- Reads the output of the run. -/
def receiver : Receiver TestRun :=
  { accept := fun t batch => { t with reader := t.reader.lines batch }
    poll := look
    flush := fun t => { t with reader := t.reader.finish } }

/-- Closes a run whose command came to `result`, unless it is closed. -/
def close (t : TestRun) (result : Except Error Unit) : RunReader :=
  match result with
  | .error e => t.reader.fail e.message
  | .ok () =>
    match t.look with
    | (true, t) => t.reader.stop
    | (false, t) => t.reader

end TestRun

/-- Runs tests on a device; gives the reports and what came of the command. -/
def Device.runTests [Daemon D S] (d : Device) (request : RunRequest) (untilCancelled : Option Nat) :
    Desk D (List RunReport × Except Error Unit) := do
  let (t, result) ←
    d.shell request.command request.limit TestRun.receiver ⟨.new, untilCancelled⟩
  pure ((t.close result).reports, result)

end DebugBridge
