import DebugBridge.Text.Lines
import DebugBridge.Wire.Framing

/-!
# Connections to the daemon

A daemon is anything that accepts connections and reacts to what is sent on them (`Daemon`). A `Call`
is a conversation over one open connection; each of its reads has a time limit, so it ends with a
value or an error. A `Net` operation talks to the daemon over connections that it opens itself, and
may also wait for ever.

The first request of most conversations selects a device. If the daemon refuses it, its message tells
whether the device is unknown or offline.
-/

namespace DebugBridge

/-- What a daemon makes of bytes sent to it. -/
structure Reaction (D S : Type) where
  /-- The daemon afterwards. -/
  daemon : D
  /-- The session afterwards. -/
  session : S
  /-- The bytes that it sends back. -/
  answer : Bytes
  /-- What comes after them. -/
  ending : Ending

/-- A daemon with state `D`, and a session `S` for each connection. -/
class Daemon (D : Type) (S : outParam Type) where
  /-- Where it is reached. -/
  address : D → String
  /-- Opens a connection, unless it is refused, and tells what is received on it at once. -/
  accept : D → Option (D × S × Stream)
  /-- Takes in bytes sent on a connection. -/
  receive : D → S → Bytes → Reaction D S

/-- An open connection, with the daemon at its far end. -/
structure Wire (D S : Type) where
  /-- The daemon. -/
  daemon : D
  /-- Its session for this connection. -/
  session : S
  /-- What is received on the connection. -/
  stream : Stream

/-- A conversation over an open connection. -/
abbrev Call (D S : Type) := ExceptT Error (StateM (Wire D S))

/-- An operation that opens connections to the daemon. -/
abbrev Net (D : Type) := ExceptT Stall (StateM D)

/-- The error for a device that the daemon refuses to select. -/
def selectionError (serial message : String) : Error :=
  if Text.contains message "not found" then .deviceNotFound serial
  else if Text.contains message "offline" then .deviceOffline serial
  else .rejected message

namespace Call

variable {D S : Type}

/-- Runs a read on what is received, with what becomes of a read that waits. -/
def reading (r : Read α) (late : Error) : Call D S α := fun w =>
  match r.run w.stream with
  | (.ok a, s) => (.ok a, { w with stream := s })
  | (.error .waiting, s) => (.error late, { w with stream := s })
  | (.error (.failed e), s) => (.error e, { w with stream := s })

theorem run_reading (r : Read α) (late : Error) (w : Wire D S) :
    (reading r late).run w =
      match r.run w.stream with
      | (.ok a, s) => (.ok a, { w with stream := s })
      | (.error .waiting, s) => (.error late, { w with stream := s })
      | (.error (.failed e), s) => (.error e, { w with stream := s }) := rfl

/-- A read that fails when it takes too long. -/
def within (operation : String) (r : Read α) : Call D S α := reading r (.timeout operation)

theorem run_within (operation : String) {r : Read α} {w : Wire D S} {a : α} {s : Stream}
    (h : r.run w.stream = (.ok a, s)) :
    (within operation r).run w = (.ok a, { w with stream := s }) := by
  rw [within, run_reading, h]

/-- Reads exactly `n` bytes. -/
def exactly (n : Nat) : Call D S Bytes := within "reading from adb daemon" (Read.exactly n)

/-- Reads at most `n` bytes. -/
def upTo (n : Nat) : Call D S Bytes := within "reading from adb daemon" (Read.upTo n)

/-- Reads the answer to a request. -/
def status : Call D S Status := within "waiting for adb status" Read.status

/-- Reads a framed payload. -/
def frame : Call D S Bytes := within "reading adb payload" Read.frame

variable [Daemon D S]

/-- Sends bytes. -/
def send (b : Bytes) : Call D S Unit := modify fun w =>
  let r := Daemon.receive w.daemon w.session b
  ⟨r.daemon, r.session, w.stream.extend r.answer r.ending⟩

theorem run_send {b answer : Bytes} {w : Wire D S} {d : D} {s : S} {ending : Ending}
    (h : Daemon.receive w.daemon w.session b = ⟨d, s, answer, ending⟩) :
    (send b).run w = (.ok (), ⟨d, s, w.stream.extend answer ending⟩) := by
  show (Except.ok (), (⟨(Daemon.receive w.daemon w.session b).daemon,
    (Daemon.receive w.daemon w.session b).session, _⟩ : Wire D S)) = _
  rw [h]

/-- Asks for a service, which the daemon must grant. -/
def request (service : String) : Call D S Unit := do
  let bytes ← encodeRequest service
  send bytes
  match ← status with
  | .okay => pure ()
  | .fail message => throw (.rejected message)

/-- A request whose refusal concerns a device. -/
def requestFor (serial service : String) : Call D S Unit :=
  tryCatch (request service) fun
    | .rejected message => throw (selectionError serial message)
    | e => throw e

/-- What a request comes to is what the answer says. -/
theorem run_request {service : String} {bytes : Bytes} {w : Wire D S} {answer : Status} {rest : Stream}
    (hbytes : encodeRequest service = .ok bytes)
    (hanswer :
      let r := Daemon.receive w.daemon w.session bytes
      Read.status.run (w.stream.extend r.answer r.ending) = (.ok answer, rest)) :
    let r := Daemon.receive w.daemon w.session bytes
    (request service).run w =
      (match answer with
        | .okay => .ok ()
        | .fail message => .error (.rejected message), ⟨r.daemon, r.session, rest⟩) := by
  intro r
  have hencode : (liftM (encodeRequest service) : Call D S Bytes).run w = (.ok bytes, w) := by
    rw [hbytes]
    rfl
  have hsend : (send bytes : Call D S Unit).run w =
      (.ok (), ⟨r.daemon, r.session, w.stream.extend r.answer r.ending⟩) := rfl
  have hstatus : (status : Call D S Status).run
      ⟨r.daemon, r.session, w.stream.extend r.answer r.ending⟩ =
        (.ok answer, ⟨r.daemon, r.session, rest⟩) := run_within _ hanswer
  rw [request, run_bind_ok hencode, run_bind_ok hsend, run_bind_ok hstatus]
  cases answer <;> rfl

/-- A request that the daemon grants. -/
theorem request_of_take? {service : String} {bytes : Bytes} {w : Wire D S} {rest : Stream}
    (hbytes : encodeRequest service = .ok bytes)
    (htake :
      let r := Daemon.receive w.daemon w.session bytes
      (w.stream.extend r.answer r.ending).take? okayToken.length = some (okayToken, rest)) :
    let r := Daemon.receive w.daemon w.session bytes
    (request service).run w = (.ok (), ⟨r.daemon, r.session, rest⟩) :=
  run_request hbytes (Read.status_of_take? htake)

theorem requestFor_of_request (serial : String) {service : String} {w w' : Wire D S}
    (h : (request service).run w = (.ok (), w')) :
    (requestFor serial service).run w = (.ok (), w') := by
  rw [requestFor, run_tryCatch, h]

/-- Directs the rest of the conversation to a device. -/
def select (serial : String) : Call D S Unit := requestFor serial s!"host:transport:{serial}"

end Call

namespace Net

variable {D S : Type} [Daemon D S]

/-- Opens a connection; the daemon is inside the wire from then on. -/
def dial (d : D) : Except Error (Wire D S) × D :=
  match Daemon.accept d with
  | none => (.error (.connectionRefused (Daemon.address d)), d)
  | some (d', session, stream) => (.ok ⟨d', session, stream⟩, d')

/-- Holds a conversation over a connection of its own, and gives what is left of the connection. -/
def converse (call : Call D S α) : StateM D (Except Error (α × S × Stream)) := fun d =>
  match dial d with
  | (.error e, d') => (.error e, d')
  | (.ok w, _) =>
    match call.run w with
    | (.ok a, w') => (.ok (a, w'.session, w'.stream), w'.daemon)
    | (.error e, w') => (.error e, w'.daemon)

theorem converse_of_dial {d : D} {w : Wire D S} (h : (dial d).1 = .ok w) (call : Call D S α) :
    converse call d =
      let (result, w') := call.run w
      (result.map fun a => (a, w'.session, w'.stream), w'.daemon) := by
  obtain ⟨d₁, hd⟩ : ∃ d₁, dial d = (.ok w, d₁) := ⟨_, Prod.ext h rfl⟩
  simp only [converse, hd]
  rcases call.run w with ⟨_ | _, w'⟩ <;> rfl

/-- Does a daemon grant a service on a new connection, and is `rest` what is received after its
consent? -/
def Grants (d : D) (service : String) (rest : Stream) : Prop :=
  ∃ bytes w, encodeRequest service = .ok bytes ∧ (dial d).1 = .ok w ∧
    let r := Daemon.receive w.daemon w.session bytes
    (w.stream.extend r.answer r.ending).take? okayToken.length = some (okayToken, rest)

theorem converse_of_grants {d : D} {service : String} {rest : Stream} (h : Grants d service rest)
    (serial : String) : ∃ session d',
      converse (Call.requestFor serial service) d = (.ok ((), session, rest), d') := by
  obtain ⟨bytes, w, hbytes, hdial, htake⟩ := h
  have hrun := Call.requestFor_of_request serial (Call.request_of_take? hbytes htake)
  rw [converse_of_dial hdial, hrun]
  exact ⟨_, _, rfl⟩

/-- Holds a conversation over a connection that is closed after it. -/
def briefly (call : Call D S α) : Net D α := fun d =>
  match converse call d with
  | (.ok (a, _), d') => (.ok a, d')
  | (.error e, d') => (.error (.failed e), d')

theorem briefly_of_dial {d : D} {w : Wire D S} (h : (dial d).1 = .ok w) (call : Call D S α) :
    (briefly call d).1 = (call.run w).1.mapError .failed := by
  simp only [briefly, converse_of_dial h]
  rcases call.run w with ⟨_ | _, w'⟩ <;> rfl

/-- The daemon after the connection is closed is the one at its far end. -/
theorem daemon_briefly_of_dial {d : D} {w : Wire D S} (h : (dial d).1 = .ok w) (call : Call D S α) :
    (briefly call d).2 = (call.run w).2.daemon := by
  simp only [briefly, converse_of_dial h]
  rcases call.run w with ⟨_ | _, w'⟩ <;> rfl

end Net

end DebugBridge
