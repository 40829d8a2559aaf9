import DebugBridge.Monitor.Interleaving

/-!
# Who has which port

A port that has been taken from the pool has a holder until it is given back. It belongs to a
registered client (`Registry.debuggerPorts`), or it is in hand (`System.inHand`): a job is to
register a client with it or to give it back, or to deal with the farewell of a device on which a
client had it.

A client that is registered while there is another one with its process number takes the place of
the other, and nobody gives back the other's port. Such ports are lost (`System.lost`): they are
held for ever, and by no one.
-/

namespace DebugBridge

/-- The ports of some clients. -/
def Client.ports (clients : List Client) : List UInt16 := clients.filterMap (·.debuggerPort)

/-- The ports of the clients of all devices. -/
def Registry.debuggerPorts (reg : Registry) : List UInt16 :=
  reg.devices.flatMap fun d => Client.ports d.clients

/-- The ports that a device leaves behind. -/
def Event.ports : Event → List UInt16
  | .disconnected d => Client.ports d.clients
  | _ => []

/-- The ports that a job of a task has in hand. -/
def Job.ports : Job → List UInt16
  | .release port => [port]
  | .register c => Client.ports [c]
  | _ => []

/-- The clients whose place a job gives to another one: at most one. -/
def Job.displaced (reg : Registry) : Job → List Client
  | .register c => ((reg.clients c.serial).find? (·.pid == c.pid)).toList
  | _ => []

/-- The ports that a task has in hand. -/
def Task.ports (t : Task) : List UInt16 := t.agenda.flatMap (·.ports)

/-- The ports that a job of the monitor has in hand. -/
def MonitorJob.ports : MonitorJob → List UInt16
  | .release port => [port]
  | .handle e => e.ports
  | _ => []

namespace System

/-- The ports that the tasks and the monitor have in hand. -/
def inHand (s : System) : List UInt16 :=
  s.agenda.flatMap (·.ports) ++ s.tasks.flatMap (·.ports)

/-- The clients whose place a move gives to another one: at most one. -/
def displaced (s : System) : Move → List Client
  | .taskWork number =>
    match (s.tasks[number]?).bind (·.agenda.head?) with
    | some job => job.displaced s.shared.registry
    | none => []
  | _ => []

/-- The ports that a step loses. -/
def lostBy (s : System) : Step → List UInt16
  | .move m => Client.ports (s.displaced m)
  | _ => []

/-- The ports that some steps lose. -/
def lost (s : System) : List Step → List UInt16
  | [] => []
  | step :: steps =>
    s.lostBy step ++ match s.step step with
      | some s => s.lost steps
      | none => []

end System

end DebugBridge
