import DebugBridge.Bridge.Listening

/-!
# The dispatcher among other threads

`Dispatcher.turn` is one turn of the dispatcher's loop with nothing in between. Here the loop is taken
apart at each of its looks: between two of them other threads may send events or tell the dispatcher to
stop, in any order (`Dispatching.act`). The runtime may also make the dispatcher pass over the queue,
although there is something in it, when it has been at work for too long.

Beside it stands the broadcast channel as it is filled, one event after the other (`Backlog.push`).
-/

namespace DebugBridge

/-- One more event is broadcast: the oldest one that is kept makes room for it. -/
def Backlog.push (b : Backlog) (e : Event) : Backlog :=
  if b.kept.length < broadcastCapacity then ⟨b.lost, b.kept ++ [e]⟩
  else ⟨b.lost + 1, b.kept.tail ++ [e]⟩

/-- What is said to the dispatcher for it to stop. -/
inductive StopCause
  /-- The last sender is gone. -/
  | sendersGone
  /-- The stop signal is raised. -/
  | raised
  /-- The side that could raise it is gone. -/
  | lost
  deriving Repr, DecidableEq, Inhabited

/-- The dispatcher after it was told to stop. -/
def Dispatcher.told (d : Dispatcher) : StopCause → Dispatcher
  | .sendersGone => { d with hasSenders := false }
  | .raised => { d with signal := .raised }
  | .lost => { d with signal := .lost }

/-- Where the dispatcher is in its loop. -/
inductive DispatchStage
  /-- It is about to take an event from the queue. -/
  | polling
  /-- It has not got an event, and is about to look at the stop signal. -/
  | looking
  /-- It has seen the signal, and delivers what is queued. -/
  | draining
  /-- It has left the loop. The queue is still there. -/
  | leaving
  deriving Repr, DecidableEq, Inhabited

/-- A dispatcher at its work. -/
structure Dispatching where
  /-- The dispatcher. -/
  dispatcher : Dispatcher
  /-- Where it is. -/
  stage : DispatchStage

/-- What may come next. -/
inductive DispatchAct
  /-- An event is sent. -/
  | send (e : Event)
  /-- The dispatcher is told to stop. -/
  | stop (cause : StopCause)
  /-- The dispatcher goes on; if it `yields`, it passes over the queue. -/
  | goOn (yields : Bool)

namespace DispatchAct

/-- The event that is sent, if one is. -/
def sent? : DispatchAct → Option Event
  | .send e => some e
  | _ => none

/-- Is the dispatcher told to stop? -/
def isStop : DispatchAct → Bool
  | .stop _ => true
  | _ => false

end DispatchAct

namespace Dispatching

/-- A dispatcher that has not begun. -/
def start : Dispatching := ⟨.new, .polling⟩

/-- The dispatcher goes on to its next look. -/
def next (l : Listeners) (p : Dispatching) (yields : Bool) : Dispatching :=
  if p.dispatcher.ended then p
  else match p.stage with
    | .polling =>
      if yields then { p with stage := .looking }
      else match p.dispatcher.queue with
        | e :: rest => { p with dispatcher := .deliver l { p.dispatcher with queue := rest } e }
        | [] => { p with stage := if p.dispatcher.hasSenders then .looking else .leaving }
    | .looking => { p with stage := if p.dispatcher.signal = .quiet then .polling else .draining }
    | .draining =>
      match p.dispatcher.queue with
      | e :: rest => { p with dispatcher := .deliver l { p.dispatcher with queue := rest } e }
      | [] => { p with stage := .leaving }
    | .leaving => { p with dispatcher := { p.dispatcher with ended := true } }

/-- What comes of an act. Nothing is sent when no sender is left. -/
def act (l : Listeners) (p : Dispatching) : DispatchAct → Dispatching
  | .send e =>
    if p.dispatcher.hasSenders then { p with dispatcher := (p.dispatcher.send e).2 } else p
  | .stop cause => { p with dispatcher := p.dispatcher.told cause }
  | .goOn yields => p.next l yields

/-- What comes of some acts, one after the other. -/
def run (l : Listeners) (p : Dispatching) (acts : List DispatchAct) : Dispatching :=
  acts.foldl (act l) p

end Dispatching

end DebugBridge
