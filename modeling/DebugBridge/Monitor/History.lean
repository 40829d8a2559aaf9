import DebugBridge.Monitor.Interleaving
import DebugBridge.Registry.Operation
import DebugBridge.Wire.Tracking

/-!
# What a run does to the registry

Each move of a run is at most one operation on the registry. The history of a run (`System.history`)
is the list of them, by whomever they were done. A sweep is an operation on all devices; there is one
for each device list that the monitor hears, and one for each stream that it loses
(`Signal.sweep?`).
-/

namespace DebugBridge

/-- The operation on the registry that a job for a device is, if it is one. -/
def Job.operation? (serial : String) : Job → Option Operation
  | .retain pids => some (.retainClients serial pids)
  | .register c => some (.addClient c)
  | .clear => some (.clearClients serial)
  | .setProperties properties => some (.setProperties serial properties)
  | .setMountPoint name path => some (.setMountPoint serial name path)
  | .setAvdName name => some (.setAvdName serial name)
  | _ => none

/-- The operation on the registry that a job of the monitor is, if it is one. -/
def MonitorJob.operation? : MonitorJob → Option Operation
  | .applyList list => some (.applyList list)
  | .clear | .quit => some .clear
  | .clearClients serial => some (.clearClients serial)
  | _ => none

/-- The sweep that a signal calls for, if it calls for one. -/
def Signal.sweep? : Signal → Option Operation
  | .list entries => some (.applyList entries)
  | .lost | .shutdown => some .clear
  | _ => none

namespace System

/-- The operation on the registry that a move is, if it is one. -/
def operation? (s : System) : Move → Option Operation
  | .work => s.agenda.head?.bind (·.operation?)
  | .taskWork number => do
    let t ← s.tasks[number]?
    let job ← t.agenda.head?
    job.operation? t.serial
  | _ => none

/-- The operations on the registry in some moves, in order. -/
def history (s : System) : List Move → List Operation
  | [] => []
  | m :: moves =>
    (s.operation? m).toList ++ match s.move m with
      | some s => s.history moves
      | none => []

/-- The sweeps that are still to be done. -/
def dueSweeps (agenda : List MonitorJob) : List Operation :=
  (agenda.filterMap (·.operation?)).filter (·.isSweep)

end System

/-- What the monitor is told of a listing, or of its failure; nothing while it waits for one. -/
def Signal.ofListing? : Except Stall (List Listed) → Option Signal
  | .ok entries => some (.list entries)
  | .error (.failed _) => some .lost
  | .error .waiting => none

/-- The signals that a stream of device lists gives in at most `n` reads. -/
def Tracking.signals (n : Nat) (s : Stream) : List Signal :=
  (Tracking.listings Read.deviceList n s).1.filterMap Signal.ofListing?

end DebugBridge
