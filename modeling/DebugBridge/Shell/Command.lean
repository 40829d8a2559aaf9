import DebugBridge.Shell.Lines
import DebugBridge.Shell.Properties
import DebugBridge.Wire.Connection

/-!
# Shell commands

A command runs over a connection of its own. What is received after the daemon's consent is the
output; it is cut into lines and handed to a receiver read by read, until the daemon closes, or the
receiver wants to stop, or nothing has come for longer than allowed. A limit of zero allows any
silence.
-/

namespace DebugBridge.Shell

/-- The most bytes that one read returns. -/
def readSize : Nat := 16384

/-- How the output of a command ended. -/
inductive OutputEnd
  | complete
  | cancelled
  | silent
  deriving Repr, DecidableEq

/-- What a command comes to, `limit` being the longest silence allowed. -/
def OutputEnd.result (command : String) (limit : Duration) : OutputEnd → Except Stall Unit
  | .complete => .ok ()
  | .cancelled => .ok ()
  | .silent =>
    if limit = .zero then .error .waiting else .error (.failed (.shellUnresponsive command limit))

/-- Hands the output to a receiver, read by read. -/
def pump (r : Receiver σ) (sp : LineSplitter) (s : σ) (ending : Ending) :
    List Bytes → σ × OutputEnd
  | [] =>
    match ending with
    | .silent => (s, .silent)
    | .closed =>
      let s := match sp.finish.1 with
        | some last => r.accept s [last]
        | none => s
      (r.flush s, .complete)
  | chunk :: rest =>
    let (lines, sp) := sp.feed chunk
    match r.poll (r.offer s lines) with
    | (true, s) => (s, .cancelled)
    | (false, s) => pump r sp s ending rest

/-- The service that runs a command on a device. -/
def service (serial command : String) : String := s!"shell:{serial},{command}"

/-- Runs a command on a device, its output going to a receiver. -/
def run {D S : Type} [Daemon D S] (serial command : String) (limit : Duration) (r : Receiver σ)
    (s : σ) : StateM D (σ × Except Stall Unit) := fun d =>
  match Net.converse (Call.requestFor serial (service serial command)) d with
  | (.error e, d') => ((s, .error (.failed e)), d')
  | (.ok (_, _, stream), d') =>
    let (s', ended) := pump r .empty s stream.ending (stream.reads readSize)
    ((s', ended.result command limit), d')

variable {D S : Type} [Daemon D S]

/-- Runs a command and reads its output to the end. -/
def output (serial command : String) (limit : Duration) (r : Receiver σ) (s : σ) : Net D σ := fun d =>
  match run serial command limit r s d with
  | ((s', .ok ()), d') => (.ok s', d')
  | ((_, .error e), d') => (.error e, d')

/-- The properties of a device. -/
def properties (serial : String) (limit : Duration) : Net D (Dict String) :=
  output serial "getprop" limit .properties .empty

/-- The path behind a mount point of a device, if it has one. -/
def mountPoint (serial name : String) (limit : Duration) : Net D (Option String) :=
  firstWord <$> output serial ("echo $" ++ name) limit .collecting []

/-- The name of a process on a device, if it has one. -/
def processDescription (serial : String) (pid : UInt32) (limit : Duration) :
    Net D (Option String) :=
  (fun lines => processName (Text.join "\n" lines)) <$>
    output serial s!"cat /proc/{pid.toNat}/cmdline" limit .collecting []

end DebugBridge.Shell
