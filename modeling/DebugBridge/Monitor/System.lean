import DebugBridge.Monitor.Task

/-!
# The monitor

The monitor follows the stream of device lists and keeps the registry in step with it. It starts the
background tasks of a device that comes online and stops them when it is online no longer. When the
stream is lost or refused it drops all devices, waits, and tries again, until it has failed too often
in a row. Told to shut down, it stops at its next wait.

Like a task, the monitor is a list of jobs, each of which waits for an answer (`System.hear`) or does a
single operation (`System.work`). `System.move` is one step of the monitor or of a task; a run is any
sequence of moves.
-/

namespace DebugBridge

/-- How the monitor stands with the daemon. -/
inductive MonitorStatus
  | connecting
  | connected
  /-- Waiting to try again, after so many failures in a row. -/
  | reconnecting (failures : Nat)
  | stopped
  deriving Repr, DecidableEq, Inhabited

/-- A job of the monitor. -/
inductive MonitorJob
  /-- Waits for the stream of device lists to be opened. -/
  | openStream
  /-- Waits for the next device list. -/
  | nextList
  /-- Waits for some time. -/
  | sleep (wait : Duration)
  /-- Brings the registry in step with a device list. -/
  | applyList (list : List Listed)
  /-- Drops all devices. -/
  | clear
  /-- Starts or stops the tasks of a device to which something has happened. -/
  | handle (e : Event)
  /-- Drops the clients of a device. -/
  | clearClients (serial : String)
  /-- Gives back a port. -/
  | release (port : UInt16)
  /-- Counts a failure, and goes to sleep or stops. -/
  | retry
  /-- Stops all tasks and drops all devices for the last time. -/
  | quit
  /-- Has stopped. -/
  | finish
  deriving DecidableEq

/-- An answer that the monitor waits for. -/
inductive Signal
  | accepted
  | refused
  | list (entries : List Listed)
  /-- The stream has ended. -/
  | lost
  /-- The time is over. -/
  | woke
  /-- The monitor is to stop. -/
  | shutdown

/-- Does the job wait? -/
def MonitorJob.waits : MonitorJob → Bool
  | .openStream | .nextList | .sleep _ => true
  | _ => false

/-- The jobs that give back the ports of some clients. -/
def MonitorJob.releases (clients : List Client) : List MonitorJob :=
  clients.filterMap fun c => c.debuggerPort.map .release

/-- The monitor and the tasks that it has started. -/
structure System where
  /-- What the monitor does. -/
  settings : MonitorSettings
  /-- What all work on. -/
  shared : Shared
  /-- How the monitor stands with the daemon. -/
  status : MonitorStatus
  /-- Failures in a row. -/
  failures : Nat
  /-- What the monitor still has to do; nothing once it has ended. -/
  agenda : List MonitorJob
  /-- The numbers of the tasks that the monitor keeps for a device. -/
  kept : Dict (List Nat)
  /-- All tasks ever started, by their number. -/
  tasks : List Task
  /-- All events published, in order. -/
  events : List Event

namespace System

/-- A monitor that has just been started. -/
def start (m : MonitorSettings) : System :=
  ⟨m, ⟨.empty, .new m.debugPortBase⟩, .connecting, 0, [.openStream], .empty, [], []⟩

/-! ## Starting and stopping tasks -/

/-- The tasks for a device that comes online. -/
def tasksFor (m : MonitorSettings) (serial : String) : List Task :=
  (if m.queryDeviceInfo || m.queryAvdName then [.setup m serial] else []) ++
    if m.trackClients then [.tracker serial] else []

/-- Starts the tasks of a device, unless they have been started. -/
def bringOnline (s : System) (serial : String) : System :=
  match s.kept.get? serial with
  | some _ => s
  | none =>
    let new := tasksFor s.settings serial
    let numbers := (List.range new.length).map (s.tasks.length + ·)
    { s with kept := s.kept.insert serial numbers, tasks := s.tasks ++ new }

/-- Tells some tasks to stop. -/
def abort (s : System) (numbers : List Nat) : System :=
  { s with tasks := s.tasks.zipIdx.map fun (t, i) =>
      if numbers.contains i then { t with aborted := true } else t }

/-- Tells the tasks of a device to stop. -/
def takeOffline (s : System) (serial : String) : System :=
  match s.kept.get? serial with
  | some numbers => { s.abort numbers with kept := s.kept.erase serial }
  | none => s

/-- Starts or stops tasks after an event, with the jobs that are left to do. -/
def handle (s : System) : Event → System × List MonitorJob
  | .connected d => (if d.isOnline then s.bringOnline d.serial else s, [])
  | .changed d .state =>
    if d.isOnline then (s.bringOnline d.serial, [])
    else (s.takeOffline d.serial, [.clearClients d.serial])
  | .changed _ _ => (s, [])
  | .disconnected d =>
    (s.takeOffline d.serial, .clearClients d.serial :: MonitorJob.releases d.clients)

/-! ## Work of the monitor -/

/-- The registry after an operation, whose events are published. -/
def publish (s : System) (u : Update α) : System :=
  { s with shared := { s.shared with registry := u.registry }, events := s.events ++ u.events }

/-- The ports of the devices that events take leave of. -/
def lastReleases (events : List Event) : List MonitorJob :=
  events.flatMap fun
    | .disconnected d => MonitorJob.releases d.clients
    | _ => []

/-- Has the monitor failed too often in a row? -/
def givesUp (m : MonitorSettings) (failures : Nat) : Bool :=
  match m.maxReconnectAttempts with
  | some most => most.toNat < failures
  | none => false

/-- Works off a job that does not wait; gives the jobs in its place. -/
def perform (s : System) : MonitorJob → Option (System × List MonitorJob)
  | .applyList list =>
    let u := s.shared.registry.applyList list
    some (s.publish u, u.events.map .handle)
  | .clear =>
    let u := s.shared.registry.clear
    some (s.publish u, u.events.map .handle)
  | .handle e => some (s.handle e)
  | .clearClients serial =>
    let u := s.shared.registry.clearClients serial
    some (s.publish u, MonitorJob.releases u.result)
  | .release port =>
    some ({ s with shared := { s.shared with ports := s.shared.ports.release port } }, [])
  | .retry =>
    let failures := s.failures + 1
    if givesUp s.settings failures then some ({ s with failures }, [.quit])
    else
      some ({ s with failures, status := .reconnecting failures },
        [.sleep (Task.backoffWait s.settings failures), .openStream])
  | .quit =>
    let s := s.abort (s.kept.entries.flatMap (·.2))
    let u := s.shared.registry.clear
    some ({ s with kept := .empty }.publish u, lastReleases u.events ++ [.finish])
  | .finish => some ({ s with status := .stopped }, [])
  | _ => none

/-- Works off the monitor's first job, if it does not wait. -/
def work (s : System) : Option System :=
  match s.agenda with
  | [] => none
  | job :: rest => (s.perform job).map fun (s, jobs) => { s with agenda := jobs ++ rest }

/-- Takes in the answer that the monitor waits for. -/
def hear (s : System) (a : Signal) : Option System :=
  match s.agenda with
  | [] => none
  | job :: rest =>
    if ! job.waits then none
    else match job, a with
      | _, .shutdown => some { s with agenda := [.quit] }
      | .openStream, .accepted =>
        some { s with status := .connected, failures := 0, agenda := .nextList :: rest }
      | .openStream, .refused => some { s with agenda := .retry :: rest }
      | .nextList, .list entries => some { s with agenda := .applyList entries :: .nextList :: rest }
      | .nextList, .lost => some { s with agenda := .clear :: .retry :: rest }
      | .sleep _, .woke => some { s with agenda := rest }
      | _, _ => none

/-! ## Work of the tasks -/

/-- Works off the first job of a task. -/
def taskWork (s : System) (number : Nat) : Option System := do
  let t ← s.tasks[number]?
  let (t, shared, events) ← t.work s.settings s.shared
  pure { s with shared, tasks := s.tasks.set number t, events := s.events ++ events }

/-- Gives a task the answer that it waits for, unless it has been told to stop. -/
def taskHear (s : System) (number : Nat) (a : Answer) : Option System := do
  let t ← s.tasks[number]?
  if t.aborted then none
  else
    let t ← t.hear a
    pure { s with tasks := s.tasks.set number t }

/-- Ends a task that has been told to stop, at its wait. -/
def taskEnd (s : System) (number : Nat) : Option System := do
  let t ← s.tasks[number]?
  if t.aborted && t.waits then pure { s with tasks := s.tasks.set number { t with agenda := [] } }
  else none

/-! ## Runs -/

/-- A step of the monitor or of a task. -/
inductive Move
  | work
  | hear (a : Signal)
  | taskWork (number : Nat)
  | taskHear (number : Nat) (a : Answer)
  | taskEnd (number : Nat)

/-- Takes a step, if it is possible. -/
def move (s : System) : Move → Option System
  | .work => s.work
  | .hear a => s.hear a
  | .taskWork number => s.taskWork number
  | .taskHear number a => s.taskHear number a
  | .taskEnd number => s.taskEnd number

/-- Takes some steps in order, if all are possible. -/
def run (s : System) (moves : List Move) : Option System := moves.foldlM move s

/-- Does the monitor wait, or has it ended? -/
def isResting (s : System) : Bool := (s.agenda.head?.map (·.waits)).getD true

/-- Works until the monitor waits or has ended, in at most so many steps. -/
def settle : Nat → System → System
  | 0, s => s
  | n + 1, s =>
    match s.work with
    | some s => settle n s
    | none => s

end System

end DebugBridge
