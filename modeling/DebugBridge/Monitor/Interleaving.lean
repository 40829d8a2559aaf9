import DebugBridge.Monitor.System

/-!
# Orders in which the monitor and its tasks may work

A run of a system is any sequence of its moves, so that any of its parties may take a step between
any two steps of another one. Some results are about more, others about less than that.

More: trackers that come and go as they please (`System.Step`). Less: runs in which a party that has
begun to work goes on until it waits again (`System.uninterrupted`), as in a runtime with one
thread.
-/

namespace DebugBridge

namespace System

/-! ## Trackers that come and go -/

/-- A step of a system among any number of trackers, which may end at any wait. -/
inductive Step
  /-- A move of the system. -/
  | move (m : Move)
  /-- One more tracker is started, whether or not there is one for the device. -/
  | track (serial : String)
  /-- A task takes in an answer, even if it has been told to stop. -/
  | goOn (number : Nat) (a : Answer)
  /-- A task ends at its wait, even if it has not been told to stop. -/
  | drop (number : Nat)

/-- Takes a step, if it is possible. -/
def step (s : System) : Step → Option System
  | .move m => s.move m
  | .track serial => some { s with tasks := s.tasks ++ [.tracker serial] }
  | .goOn number a => do
    let t ← s.tasks[number]?
    let t ← t.hear a
    pure { s with tasks := s.tasks.set number t }
  | .drop number => do
    let t ← s.tasks[number]?
    if t.waits then pure { s with tasks := s.tasks.set number { t with agenda := [] } } else none

/-- Takes some steps in order, if all are possible. -/
def steps (s : System) (l : List Step) : Option System := l.foldlM step s

/-! ## Parties that are not interrupted -/

/-- Who takes a move. -/
inductive Party
  | monitor
  | task (number : Nat)
  deriving DecidableEq

/-- The one who takes a move. -/
def Move.party : Move → Party
  | .work | .hear _ => .monitor
  | .taskWork number | .taskHear number _ | .taskEnd number => .task number

/-- Do all other parties wait, unless they have ended? -/
def isAlone (s : System) (p : Party) : Bool :=
  (p == .monitor || s.isResting) &&
    s.tasks.zipIdx.all fun (t, number) => p == .task number || ! t.isBusy

/-- Are some moves such that whoever has begun to work goes on until it waits again? -/
def uninterrupted (s : System) : List Move → Bool
  | [] => true
  | m :: moves => s.isAlone m.party && match s.move m with
    | some s => s.uninterrupted moves
    | none => true

/-! ## What the monitor hears -/

/-- The signal that the monitor hears in a move. -/
def Move.signal? : Move → Option Signal
  | .hear a => some a
  | _ => none

/-- The signals that the monitor hears in some moves, in order. -/
def signals (moves : List Move) : List Signal := moves.filterMap (·.signal?)

/-- The failures in a row after one more signal. A refusal is a failure, and so is the loss of a
stream, the first after its acceptance. -/
def countFailure (failures : Nat) : Signal → Nat
  | .accepted => 0
  | .refused | .lost => failures + 1
  | _ => failures

/-- The failures in a row that some signals tell of. -/
def failuresIn (l : List Signal) : Nat := l.foldl countFailure 0

end System

end DebugBridge
