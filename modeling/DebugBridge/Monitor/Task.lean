import DebugBridge.Monitor.Backoff
import DebugBridge.PortPool
import DebugBridge.Registry.Basic
import DebugBridge.Settings.Basic

/-!
# Background tasks of a device

While a device is online, tasks work for it in the background. One asks once for its properties, its
mount points and the name of its virtual device. Another, the tracker, follows the list of its
debuggable processes and keeps its clients in step with it; when its stream is lost or refused it
drops the clients, waits, and tries again.

A task is a list of jobs. A job either waits for an answer from outside (`Task.hear`), or works on
what the tasks share, by a single operation on the registry or on the pool of ports (`Task.work`).
Between two jobs any other task may work.
-/

namespace DebugBridge

/-- What all tasks work on. -/
structure Shared where
  /-- The known devices. -/
  registry : Registry
  /-- The local ports for debuggers. -/
  ports : PortPool
  deriving DecidableEq

/-- A job of a task. -/
inductive Job
  /-- Waits for the stream of process lists to be opened. -/
  | openStream
  /-- Waits for the next process list. -/
  | nextPids
  /-- Waits for a process to answer a greeting. -/
  | greet (pid : UInt32)
  /-- Waits for the name of a process. -/
  | describe (pid : UInt32)
  /-- Waits for some time. -/
  | sleep (wait : Duration)
  /-- Waits for the stream of process lists to be closed. -/
  | closeStream
  | askProperties
  | askMountPoint (name : String)
  | askAvdName (port : UInt16)
  /-- Keeps the clients on a process list. -/
  | retain (pids : List UInt32)
  /-- Looks which processes of a list are no clients yet. -/
  | survey (pids : List UInt32)
  /-- Gives back a port. -/
  | release (port : UInt16)
  /-- Takes a port for a new client. -/
  | allocate (pid : UInt32) (description : Option String)
  /-- Adds a client. -/
  | register (client : Client)
  /-- Drops the clients. -/
  | clear
  /-- Goes on with the next list if the device is online. -/
  | checkAfterList
  /-- Goes to sleep if the device is online. -/
  | checkBeforeSleep
  /-- Tries again if the device is online. -/
  | checkAfterSleep
  | setProperties (properties : Dict String)
  | setMountPoint (name path : String)
  | setAvdName (name : String)
  deriving DecidableEq

/-- An answer that a job waits for. -/
inductive Answer
  | accepted
  | refused (e : Error)
  | pids (list : List UInt32)
  /-- The stream has ended. -/
  | lost
  /-- Did the process answer the greeting? -/
  | greeted (ok : Bool)
  /-- The name of a process, if it could be found out. -/
  | described (name : Option String)
  /-- The time is over. -/
  | woke
  /-- The stream is closed. -/
  | closed
  /-- The properties, if the device told them. -/
  | properties (found : Option (Dict String))
  /-- The path of a mount point, if the device has one. -/
  | mountPoint (found : Option String)
  /-- The name of the virtual device, if it was told. -/
  | avdName (found : Option String)

/-- Does the job wait? -/
def Job.waits : Job → Bool
  | .openStream | .nextPids | .greet _ | .describe _ | .sleep _ | .closeStream
  | .askProperties | .askMountPoint _ | .askAvdName _ => true
  | _ => false

/-- The jobs that give back the ports of some clients. -/
def Job.releases (clients : List Client) : List Job :=
  clients.filterMap fun c => c.debuggerPort.map .release

/-- A background task. -/
structure Task where
  /-- The device it works for. -/
  serial : String
  /-- Does it track clients? -/
  isTracker : Bool
  /-- Failures in a row. -/
  failures : Nat
  /-- What it still has to do; nothing once it has ended. -/
  agenda : List Job
  /-- Has it been told to stop? It does so at its next wait. -/
  aborted : Bool
  deriving DecidableEq

namespace Task

/-- A new tracker. -/
def tracker (serial : String) : Task := ⟨serial, true, 0, [.openStream], false⟩

/-- A new task that asks a device about itself. -/
def setup (m : MonitorSettings) (serial : String) : Task :=
  let info := if m.queryDeviceInfo then
      .askProperties :: Snapshot.mountPointNames.map .askMountPoint
    else []
  let avd := match m.queryAvdName, Serial.consolePort? serial with
    | true, some port => [.askAvdName port]
    | _, _ => []
  ⟨serial, false, 0, info ++ avd, false⟩

/-- Does the task wait for an answer? -/
def waits (t : Task) : Bool := (t.agenda.head?.map (·.waits)).getD false

/-- Has the task something to do on what is shared? -/
def isBusy (t : Task) : Bool := (t.agenda.head?.map fun job => ! job.waits).getD false

/-- The wait after so many failures in a row. -/
def backoffWait (m : MonitorSettings) (failures : Nat) : Duration :=
  backoff failures m.firstWait m.longestWait

/-- What a task does with the first of its jobs: what is shared afterwards, the events published, the
failures in a row, and the jobs that take the place of the first. -/
structure Work where
  /-- What is shared. -/
  shared : Shared
  /-- The events published. -/
  events : List Event
  /-- Failures in a row. -/
  failures : Nat
  /-- The jobs in the place of the first. -/
  jobs : List Job

/-- Works off a job that does not wait. -/
def perform (m : MonitorSettings) (t : Task) (g : Shared) : Job → Option Work
  | .retain pids =>
    let u := g.registry.retainClients t.serial pids
    some ⟨{ g with registry := u.registry }, u.events, t.failures, Job.releases u.result⟩
  | .survey pids =>
    let known := (g.registry.clients t.serial).map (·.pid)
    let unknown := pids.filter fun pid => ! known.contains pid
    some ⟨g, [], t.failures, unknown.map (if m.jdwpHandshake then .greet else .describe)⟩
  | .release port => some ⟨{ g with ports := g.ports.release port }, [], t.failures, []⟩
  | .allocate pid description =>
    let (port, ports) := g.ports.take
    some ⟨{ g with ports }, [], t.failures, [.register ⟨pid, t.serial, description, port⟩]⟩
  | .register client =>
    let u := g.registry.addClient client
    some ⟨{ g with registry := u.registry }, u.events, t.failures,
      if u.result then [] else Job.releases [client]⟩
  | .clear =>
    let u := g.registry.clearClients t.serial
    some ⟨{ g with registry := u.registry }, u.events, t.failures, Job.releases u.result⟩
  | .checkAfterList =>
    some ⟨g, [], t.failures,
      if g.registry.isOnline t.serial then [.nextPids]
      else [.closeStream, .clear, .checkBeforeSleep]⟩
  | .checkBeforeSleep =>
    if g.registry.isOnline t.serial then
      some ⟨g, [], t.failures + 1, [.sleep (backoffWait m (t.failures + 1)), .checkAfterSleep]⟩
    else some ⟨g, [], t.failures, []⟩
  | .checkAfterSleep =>
    some ⟨g, [], t.failures, if g.registry.isOnline t.serial then [.openStream] else []⟩
  | .setProperties properties =>
    let u := g.registry.setProperties t.serial properties
    some ⟨{ g with registry := u.registry }, u.events, t.failures, []⟩
  | .setMountPoint name path =>
    let u := g.registry.setMountPoint t.serial name path
    some ⟨{ g with registry := u.registry }, u.events, t.failures, []⟩
  | .setAvdName name =>
    let u := g.registry.setAvdName t.serial name
    some ⟨{ g with registry := u.registry }, u.events, t.failures, []⟩
  | _ => none

/-- Works off the first job, if it does not wait: the task afterwards, what is shared, and the events
published. -/
def work (m : MonitorSettings) (t : Task) (g : Shared) : Option (Task × Shared × List Event) :=
  match t.agenda with
  | [] => none
  | job :: rest =>
    (t.perform m g job).map fun w =>
      ({ t with failures := w.failures, agenda := w.jobs ++ rest }, w.shared, w.events)

/-- Does a refusal mean that asking again gets the same answer? -/
def isFinal (e : Error) : Bool := e.isRejection && ! e.isRetryable

/-- The jobs that an answer puts in the place of the first job; none if the job does not wait for
such an answer. -/
def heard : Job → Answer → Option (List Job)
  | .openStream, .accepted => some [.nextPids]
  | .openStream, .refused e => some (if isFinal e then [.clear] else [.clear, .checkBeforeSleep])
  | .nextPids, .pids list => some [.retain list, .survey list, .checkAfterList]
  | .nextPids, .lost => some [.clear, .checkBeforeSleep]
  | .greet pid, .greeted ok => some (if ok then [.describe pid] else [])
  | .describe pid, .described name => some [.allocate pid name]
  | .sleep _, .woke => some []
  | .closeStream, .closed => some []
  | .askProperties, .properties found => some (found.toList.map .setProperties)
  | .askMountPoint name, .mountPoint found => some (found.toList.map (.setMountPoint name))
  | .askAvdName _, .avdName found => some (found.toList.map .setAvdName)
  | _, _ => none

/-- Takes in the answer that the first job waits for. An opened stream ends the failures. -/
def hear (t : Task) (a : Answer) : Option Task :=
  match t.agenda with
  | [] => none
  | job :: rest =>
    (heard job a).map fun jobs =>
      { t with
        failures := match a with
          | .accepted => 0
          | _ => t.failures
        agenda := jobs ++ rest }

end Task

end DebugBridge
