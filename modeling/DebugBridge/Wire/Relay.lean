import DebugBridge.Wire.Connection

/-!
# Relays

A relay stands in front of a daemon. It keeps a record of the requests that pass, and may answer some
of them in the daemon's place: such an answer ends the conversation, unless it grants the selection of
a device. What follows the last request of a conversation passes unread.
-/

namespace DebugBridge

/-- An answer given in the daemon's place. -/
structure Override where
  /-- The request that it answers. -/
  request : String
  /-- The answer. -/
  answer : Bytes
  /-- What comes after it. -/
  ending : Ending
  /-- How often it is still given; without end if not told. -/
  left : Option Nat
  deriving Repr, DecidableEq, Inhabited

/-- A relay in front of a daemon. -/
structure Relay (D : Type) where
  /-- The daemon. -/
  daemon : D
  /-- The answers given in its place, latest first. -/
  overrides : List Override
  /-- The requests that have passed, in order. -/
  requests : List String

/-- What a relay does with the bytes of a connection. -/
inductive RelayMode
  /-- Reads requests. -/
  | reading
  /-- Lets all pass. -/
  | passing
  /-- Has answered in the daemon's place. -/
  | answered (ending : Ending)
  deriving Repr, DecidableEq, Inhabited

/-- A connection as the relay sees it. -/
structure RelaySession (S : Type) where
  /-- The daemon's session. -/
  session : S
  /-- What is done with its bytes. -/
  mode : RelayMode
  /-- Bytes that have come and not been read. -/
  pending : Bytes
  /-- The latest request. -/
  last : Option String

namespace Relay

variable {D S : Type}

/-- A relay that only keeps a record. -/
def new (d : D) : Relay D := ⟨d, [], []⟩

/-- Answers a request in the daemon's place from now on. -/
def addOverride (r : Relay D) (o : Override) : Relay D := { r with overrides := o :: r.overrides }

/-- Finds the answer to a request, and counts it. -/
def findOverride (request : String) : List Override → Option (Override × List Override)
  | [] => none
  | o :: rest =>
    if o.request = request ∧ o.left ≠ some 0 then
      some (o, { o with left := o.left.map (· - 1) } :: rest)
    else (findOverride request rest).map fun (found, rest) => (found, o :: rest)

/-- Does the request select a device? -/
def selects (request : String) : Bool := "host:transport:".toList.isPrefixOf request.toList

/-- What is read off the pending bytes. -/
inductive Front
  /-- More is to come. -/
  | incomplete
  /-- What has come is no request. -/
  | malformed
  | request (text : String) (whole rest : Bytes)

/-- Reads a request off the pending bytes. -/
def front (pending : Bytes) : Front :=
  if pending.length < 4 then .incomplete
  else match lengthPrefix? (pending.take 4) with
    | .error _ => .malformed
    | .ok n =>
      if pending.length < 4 + n then .incomplete
      else .request (Utf8.lossy ((pending.drop 4).take n)) (pending.take (4 + n))
        (pending.drop (4 + n))

variable [Daemon D S]

/-- Passes bytes on to the daemon. -/
def pass (r : Relay D) (s : RelaySession S) (b : Bytes) : Reaction (Relay D) (RelaySession S) :=
  let reaction := Daemon.receive r.daemon s.session b
  ⟨{ r with daemon := reaction.daemon }, { s with session := reaction.session }, reaction.answer,
    reaction.ending⟩

/-- Reads the requests that have come. `answer` is what has been answered before, `ending` what came
after it. -/
def readRequests (r : Relay D) (s : RelaySession S) (answer : Bytes) (ending : Ending) :
    Reaction (Relay D) (RelaySession S) :=
  match front s.pending with
  | .incomplete => ⟨r, s, answer, ending⟩
  | .malformed =>
    let x := r.pass { s with mode := .passing, pending := [] } s.pending
    { x with answer := answer ++ x.answer }
  | .request text whole rest =>
    if rest.length < s.pending.length then
      let r := { r with requests := r.requests ++ [text] }
      let s' := { s with pending := rest, last := some text }
      match findOverride text r.overrides with
      | some (o, overrides) =>
        let r := { r with overrides }
        if selects text && o.answer == okayToken then
          readRequests r s' (answer ++ o.answer) .silent
        else ⟨r, { s' with mode := .answered o.ending }, answer ++ o.answer, o.ending⟩
      | none =>
        let x := r.pass s' whole
        if selects text && x.ending == .closed then
          ⟨x.daemon, { x.session with mode := .answered .closed }, answer ++ x.answer, .closed⟩
        else if selects text then
          readRequests x.daemon x.session (answer ++ x.answer) x.ending
        else
          let y := x.daemon.pass { x.session with mode := .passing, pending := [] } rest
          ⟨y.daemon, y.session, answer ++ x.answer ++ y.answer, y.ending⟩
    else ⟨r, s, answer, ending⟩
termination_by s.pending.length
decreasing_by
  · assumption
  · simp only [pass] at *
    assumption

instance : Daemon (Relay D) (RelaySession S) where
  address r := Daemon.address r.daemon
  accept r := (Daemon.accept r.daemon).map fun (d, session, stream) =>
    ({ r with daemon := d }, ⟨session, .reading, [], none⟩, stream)
  receive r s b :=
    match s.mode with
    | .reading => r.readRequests { s with pending := s.pending ++ b } [] .silent
    | .passing => r.pass s b
    | .answered ending => ⟨r, s, [], ending⟩

end Relay

end DebugBridge
