import DebugBridge.Bridge.Basic
import DebugBridge.Emulator.Console
import DebugBridge.Shell.Command
import DebugBridge.Wire.Host
import DebugBridge.Wire.Script
import DebugBridge.Wire.Tracking

/-!
# Bridges at work with a daemon

A live bridge gets the answers that its monitor and its tasks wait for from a daemon, and goes on
until all of them wait for something that does not come: the next list on an open stream, an answer
that the daemon withholds, or the end of a long sleep.

The order in which the parts work is one of those that `Bridge.run` allows: the monitor first, then
the tasks, the oldest first, each up to its next wait.
-/

namespace DebugBridge

/-- Whose stream it is. -/
inductive Owner
  | monitor
  | task (number : Nat)
  deriving Repr, DecidableEq

/-- An open tracking stream. -/
structure OpenStream (S : Type) where
  /-- Who reads it. -/
  owner : Owner
  /-- The daemon's session. -/
  session : S
  /-- What is received. -/
  stream : Stream

/-- A bridge with a daemon. -/
structure Live (D S : Type) where
  /-- The bridge. -/
  bridge : Bridge
  /-- The daemon. -/
  daemon : D
  /-- The open tracking streams. -/
  streams : List (OpenStream S)
  /-- What the consoles of emulators send, by port; nothing if none is there. -/
  console : UInt16 → Option Bytes
  /-- How long a shell command of a task may be silent. -/
  shellLimit : Duration
  /-- The longest sleep whose end is awaited. -/
  patience : Duration

namespace Live

variable {D S : Type} [Daemon D S]

/-- Where the console of an emulator is reached. -/
def consoleAddress (port : UInt16) : String :=
  (SocketAddress.mk .loopback port).text

/-- The console at a port. -/
def consoleAt (l : Live D S) (port : UInt16) : Script :=
  match l.console port with
  | some supply => .saying (consoleAddress port) (.ofBytes supply .closed)
  | none => .refusing (consoleAddress port)

/-! ## Answers -/

/-- Opens a tracking stream. -/
def openStream (l : Live D S) (owner : Owner) (call : Call D S Unit) :
    Except Error Unit × Live D S :=
  match Net.converse call l.daemon with
  | (.ok (_, session, stream), daemon) =>
    (.ok (), { l with daemon, streams := ⟨owner, session, stream⟩ :: l.streams })
  | (.error e, daemon) => (.error e, { l with daemon })

/-- Reads the next list on a tracking stream; none if it does not come. -/
def nextListing (l : Live D S) (owner : Owner) (r : Read α) :
    Option (Except Error α × Live D S) :=
  match l.streams.find? (·.owner == owner) with
  | none => none
  | some found =>
    let others := l.streams.filter (·.owner != owner)
    match r.run found.stream with
    | (.ok a, stream) => some (.ok a, { l with streams := { found with stream } :: others })
    | (.error (.failed e), _) => some (.error e, { l with streams := others })
    | (.error .waiting, _) => none

/-- Asks the daemon; none if the answer does not come. -/
def ask (l : Live D S) (op : Net D α) : Option (Except Error α × Live D S) :=
  match op l.daemon with
  | (.ok a, daemon) => some (.ok a, { l with daemon })
  | (.error (.failed e), daemon) => some (.error e, { l with daemon })
  | (.error .waiting, _) => none

/-- The answer that the monitor waits for. -/
def signal (l : Live D S) : MonitorJob → Option (Signal × Live D S)
  | .openStream =>
    match l.openStream .monitor Tracking.devices with
    | (.ok (), l) => some (.accepted, l)
    | (.error _, l) => some (.refused, l)
  | .nextList =>
    (l.nextListing .monitor Read.deviceList).map fun (r, l) =>
      match r with
      | .ok list => (.list list, l)
      | .error _ => (.lost, l)
  | .sleep wait => if wait ≤ l.patience then some (.woke, l) else none
  | _ => none

/-- The answer that a task waits for. -/
def answer (l : Live D S) (number : Nat) (serial : String) : Job → Option (Answer × Live D S)
  | .openStream =>
    match l.openStream (.task number) (Tracking.processes serial) with
    | (.ok (), l) => some (.accepted, l)
    | (.error e, l) => some (.refused e, l)
  | .nextPids =>
    (l.nextListing (.task number) Read.pidList).map fun (r, l) =>
      match r with
      | .ok list => (.pids list, l)
      | .error _ => (.lost, l)
  | .greet pid =>
    (l.ask (Host.handshake serial pid)).map fun (r, l) => (.greeted (r.toOption.getD false), l)
  | .describe pid =>
    (l.ask (Shell.processDescription serial pid l.shellLimit)).map fun (r, l) =>
      (.described (r.toOption.getD none), l)
  | .sleep wait => if wait ≤ l.patience then some (.woke, l) else none
  | .closeStream =>
    some (.closed, { l with streams := l.streams.filter (·.owner != Owner.task number) })
  | .askProperties =>
    (l.ask (Shell.properties serial l.shellLimit)).map fun (r, l) => (.properties r.toOption, l)
  | .askMountPoint name =>
    (l.ask (Shell.mountPoint serial name l.shellLimit)).map fun (r, l) =>
      (.mountPoint (r.toOption.getD none), l)
  | .askAvdName port =>
    match Console.avdName none (l.consoleAt port) with
    | (.ok name, _) => some (.avdName name, l)
    | (.error (.failed _), _) => some (.avdName none, l)
    | (.error .waiting, _) => none
  | _ => none

/-! ## Going on -/

/-- The bridge after a step of the monitor or of a task, if it is possible. -/
def take (l : Live D S) (m : System.Move) : Option (Live D S) :=
  (l.bridge.move (.system m)).map fun bridge => { l with bridge }

/-- A step of the monitor. -/
def monitorStep (l : Live D S) : Option (Live D S) :=
  match l.bridge.system.agenda with
  | [] => none
  | job :: _ =>
    if ! job.waits then l.take .work
    else if l.bridge.stage == .stopping then l.take (.hear .shutdown)
    else (l.signal job).bind fun (a, l) => l.take (.hear a)

/-- A step of a task. One that has ended or stopped reads no stream any more. -/
def taskStep (l : Live D S) (number : Nat) (t : Task) : Option (Live D S) :=
  match t.agenda with
  | [] => none
  | job :: _ =>
    if ! job.waits then l.take (.taskWork number)
    else if t.aborted then
      { l with streams := l.streams.filter (·.owner != Owner.task number) }.take (.taskEnd number)
    else (l.answer number t.serial job).bind fun (a, l) => l.take (.taskHear number a)

/-- A step of the monitor or else of the oldest task that can take one. -/
def step (l : Live D S) : Option (Live D S) :=
  match l.monitorStep with
  | some l => some l
  | none => l.bridge.system.tasks.zipIdx.findSome? fun (t, number) => l.taskStep number t

/-- Delivers all events that are queued. -/
def deliver (l : Live D S) : Live D S :=
  { l with bridge := { l.bridge with dispatcher := l.bridge.dispatcher.settle l.bridge.listeners } }

/-- Goes on until nothing more happens, for at most so many steps. -/
def settle : Nat → Live D S → Live D S
  | 0, l => l.deliver
  | n + 1, l =>
    match l.step with
    | some l => settle n l
    | none => l.deliver

/-- The number of steps after which a bridge that does not come to rest is left alone. -/
def longRun : Nat := 100000

/-- The bridge at rest. -/
def rest (l : Live D S) : Live D S := settle longRun l

/-- Does nothing more happen by itself? A bridge that tries to reconnect again and again never comes
to rest. -/
def isResting (l : Live D S) : Bool := l.step.isNone

/-- A bridge that has just been started, at rest. -/
def start (s : Settings) (daemon : D) (console : UInt16 → Option Bytes) (patience : Duration) :
    Except Error (Live D S) :=
  (Bridge.start s).map fun bridge =>
    rest { bridge, daemon, streams := [], console, shellLimit := s.shellInactivity, patience }

/-- Takes the next step in shutting down. -/
def goDown (l : Live D S) : Live D S :=
  match l.bridge.move .shutdown with
  | some bridge => { l with bridge }
  | none => l

/-- Shuts down: the monitor first, then the dispatcher. -/
def shutdown (l : Live D S) : Live D S := l.goDown.rest.goDown.rest.goDown

end Live

end DebugBridge
