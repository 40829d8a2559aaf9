import DebugBridge.MemoryDaemon.Forwards
import DebugBridge.MemoryDaemon.Sync
import DebugBridge.Wire.Connection
import DebugBridge.Wire.Host

/-!
# A daemon in memory

A daemon whose devices, processes, files and forwards are values. It speaks the daemon's protocol over
any connection, and its state is set from outside. It is a second description of the protocol, from
the side that answers.
-/

namespace DebugBridge

/-- How the daemon answers a shell command. -/
inductive ShellReply
  /-- Prints this and ends. -/
  | output (text : String)
  /-- Accepts the command and stays silent. -/
  | silent
  | reject (message : String)
  deriving Repr, DecidableEq, Inhabited

/-- A daemon in memory. -/
structure MemoryDaemon where
  /-- Where it is reached. -/
  address : String
  /-- Does it accept connections? -/
  reachable : Bool
  /-- The serials and state tokens of its devices. -/
  devices : List (String × String)
  /-- The debuggable processes by serial. -/
  processes : Dict (List UInt32)
  /-- The answers to shell commands by what the command begins with, latest first. -/
  replies : List (String × ShellReply)
  /-- Its files. -/
  store : RemoteStore
  /-- The message with which pushes fail, if they do. -/
  pushFailure : Option String
  /-- Is the sync service refused? -/
  refusesSync : Bool
  /-- Is the tracking of processes refused? -/
  refusesTracking : Bool
  /-- Its forwards. -/
  forwards : ForwardTable
  /-- The requests that reached it, in order. -/
  requests : List String

/-- What a connection is used for. -/
inductive Service
  /-- Waits for a request, perhaps with a device selected. -/
  | request (selected : Option String)
  | sync (phase : SyncPhase)
  /-- Waits for a greeting to send back. -/
  | greeting
  /-- Sends the device list whenever it is set. -/
  | devices
  /-- Sends the processes of a device whenever they are set. -/
  | processes (serial : String)
  /-- Sends nothing more. -/
  | silent
  | closed
  deriving Repr, DecidableEq, Inhabited

/-- What a connection is used for after a packet of the sync service. -/
def Service.ofPhase : SyncPhase → Service
  | .ended => .closed
  | phase => .sync phase

/-- A connection as the daemon sees it. -/
structure MemorySession where
  /-- What it is used for. -/
  service : Service
  /-- Bytes that have come and not been read. -/
  pending : Bytes
  deriving Repr, DecidableEq, Inhabited

namespace MemoryDaemon

/-- A daemon without devices. -/
def new (address : String) : MemoryDaemon :=
  ⟨address, true, [], .empty, [], .empty, none, false, false, [], []⟩

/-! ## Setting its state -/

/-- Sets the answer to the shell commands with a beginning. -/
def onShell (d : MemoryDaemon) (beginning : String) (r : ShellReply) : MemoryDaemon :=
  { d with replies := (beginning, r) :: d.replies }

/-- Stores a file. -/
def putFile (d : MemoryDaemon) (path : String) (data : Bytes) : MemoryDaemon :=
  { d with store := d.store.insert path ⟨data, 0o100644, 1700000000⟩ }

/-! ## Answering requests -/

/-- A payload with its length before it, in at least four lower-case digits. -/
def frame (payload : String) : Bytes :=
  let body := Bytes.ofString payload
  let digits := Nat.toDigits 16 body.length
  Bytes.ofString (String.ofList (List.replicate (4 - digits.length) '0' ++ digits)) ++ body

/-- A refusal. -/
def refusal (message : String) : Bytes := failToken ++ frame message

/-- What is wrong with a device, if it cannot be used. -/
def deviceFault? (d : MemoryDaemon) (serial : String) : Option String :=
  match d.devices.find? (·.1 == serial) with
  | some (_, token) => if token = "device" then none else some "device offline"
  | none => some s!"device '{serial}' not found"

/-- The answer to a shell command. -/
def replyTo (d : MemoryDaemon) (command : String) : ShellReply :=
  match d.replies.find? fun (beginning, _) => beginning.toList.isPrefixOf command.toList with
  | some (_, r) => r
  | none => .output ""

/-- The device list that is sent to those who track it. -/
def deviceFrame (d : MemoryDaemon) : Bytes := frame (Listing.writeDevices d.devices)

/-- The processes of a device that are sent to those who track them. -/
def processFrame (d : MemoryDaemon) (serial : String) : Bytes :=
  frame (Listing.writePids ((d.processes.get? serial).getD []))

/-- What the daemon makes of a request: its state, what the connection is used for, and the answer. -/
abbrev Served := MemoryDaemon × Service × Bytes

/-- Grants a request. -/
def grant (d : MemoryDaemon) (next : Service) (more : Bytes) : Served := (d, next, okayToken ++ more)

/-- Refuses a request and closes the connection. -/
def refuse (d : MemoryDaemon) (message : String) : Served := (d, .closed, refusal message)

/-- Runs a shell command, given as `serial,command`. -/
def shell (d : MemoryDaemon) (target : List Char) : Served :=
  match Text.cutAt ',' target with
  | none => d.refuse "malformed shell request"
  | some (serial, command) =>
    match d.deviceFault? (String.ofList serial) with
    | some fault => d.refuse fault
    | none =>
      match d.replyTo (String.ofList command) with
      | .output text => d.grant .closed (Bytes.ofString text)
      | .silent => d.grant .silent []
      | .reject message => d.refuse message

/-- Changes the forward table, as `serial:command` asks. -/
def forward (d : MemoryDaemon) (target : List Char) : Served :=
  match Text.cutAt ':' target with
  | none => d.refuse "malformed forward request"
  | some (serial, command) =>
    let serial := String.ofList serial
    match Text.after? "forward:".toList command with
    | some spec =>
      match Text.cutAt ';' spec with
      | none => d.refuse "malformed forward spec"
      | some (localSpec, remoteSpec) =>
        match d.deviceFault? serial with
        | some fault => d.refuse fault
        | none =>
          let rule := ForwardRule.mk serial (String.ofList localSpec) (String.ofList remoteSpec)
          { d with forwards := ForwardTable.create d.forwards rule }.grant .closed []
    | none =>
      match Text.after? "killforward:".toList command with
      | some localSpec =>
        let localSpec := String.ofList localSpec
        match ForwardTable.remove d.forwards serial localSpec with
        | some table => { d with forwards := table }.grant .closed []
        | none => d.refuse s!"listener '{localSpec}' not found"
      | none => d.refuse "unknown host-serial service"

/-- Answers a request, perhaps with a device selected. -/
def serve (d : MemoryDaemon) (selected : Option String) (service : String) : Served :=
  let after? := fun (lead : String) => Text.after? lead.toList service.toList
  match after? "host:transport:" with
  | some serial =>
    let serial := String.ofList serial
    match d.deviceFault? serial with
    | some fault => d.refuse fault
    | none => d.grant (.request (some serial)) []
  | none =>
    if service = "host:version" then d.grant .closed (frame "0029")
    else if service = "host:track-devices" then d.grant .devices d.deviceFrame
    else if service = "host:list-forward" then
      d.grant .closed (frame (Listing.writeForwards d.forwards))
    else if service = "sync:" then
      if selected.isSome && ! d.refusesSync then d.grant (.sync .idle) [] else d.refuse "closed"
    else if service = "track-jdwp" then
      match selected with
      | none => d.refuse "no device selected"
      | some serial =>
        if d.refusesTracking then d.refuse "closed"
        else d.grant (.processes serial) (d.processFrame serial)
    else match after? "shell:" with
      | some target => d.shell target
      | none =>
        if (after? "jdwp:").isSome && selected.isSome then d.grant .greeting []
        else if (after? "reboot:").isSome && selected.isSome then d.grant .closed []
        else match after? "host-serial:" with
          | some target => d.forward target
          | none => d.refuse s!"unknown host service '{service}'"

/-! ## Reading requests -/

/-- The length that the four digits before a request announce; a plus sign may stand before them. -/
def announced? (digits : Bytes) : Option Nat :=
  match digits.map fun b => Char.ofNat b.toNat with
  | '+' :: rest => Text.hexadecimal? rest
  | chars => Text.hexadecimal? chars

/-- The front of the pending bytes that can be worked on, and the rest; none if more is to come. -/
def nextUnit (s : MemorySession) : Option (Bytes × Bytes) :=
  let size? := match s.service with
    | .request _ =>
      if s.pending.length < 4 then none
      else match announced? (s.pending.take 4) with
        | some n => some (4 + n)
        | none => some 4
    | .sync phase => SyncService.unitSize phase s.pending
    | .greeting => some Host.greeting.length
    | _ => none
  match size? with
  | some n => if s.pending.length < n then none else some (s.pending.take n, s.pending.drop n)
  | none => none

/-- Works on a unit. -/
def take (d : MemoryDaemon) (service : Service) (whole : Bytes) : Served :=
  match service with
  | .request selected =>
    match announced? (whole.take 4) with
    | none => (d, .closed, [])
    | some _ =>
      let text := Utf8.lossy (whole.drop 4)
      { d with requests := d.requests ++ [text] }.serve selected text
  | .sync phase =>
    let r := SyncService.packetArrived d.store d.pushFailure phase whole
    ({ d with store := r.store }, .ofPhase r.phase, r.answer)
  | .greeting => (d, .silent, whole)
  | other => (d, other, [])

/-- Works on all that has come. -/
def workOff (d : MemoryDaemon) (s : MemorySession) (answer : Bytes) :
    MemoryDaemon × MemorySession × Bytes :=
  match nextUnit s with
  | none => (d, s, answer)
  | some (whole, rest) =>
    if rest.length < s.pending.length then
      let (d, service, more) := d.take s.service whole
      workOff d ⟨service, rest⟩ (answer ++ more)
    else (d, s, answer)
termination_by s.pending.length

/-- What comes after the last byte on a connection. -/
def ending (s : MemorySession) : Ending := if s.service = .closed then .closed else .silent

instance : Daemon MemoryDaemon MemorySession where
  address d := d.address
  accept d := if d.reachable then some (d, ⟨.request none, []⟩, .ofBytes [] .silent) else none
  receive d s b :=
    let (d, s, answer) := d.workOff { s with pending := s.pending ++ b } []
    ⟨d, s, answer, ending s⟩

end MemoryDaemon

end DebugBridge
