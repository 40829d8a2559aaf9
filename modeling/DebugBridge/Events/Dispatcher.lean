import DebugBridge.Events.Listeners

/-!
# The dispatcher of events

Events wait in a queue until the dispatcher delivers them, one after the other: first to every
listener, then to a broadcast channel that keeps the newest 256. The dispatcher ends when no sender
is left, or when its stop signal is raised or lost; what is queued at that moment is still delivered.
After its end no event is accepted.
-/

namespace DebugBridge

/-- The number of events that the broadcast channel keeps. -/
def broadcastCapacity : Nat := 256

/-- What a subscriber finds who reads the broadcast channel after some events were sent. -/
structure Backlog where
  /-- The number of events that were overwritten. -/
  lost : Nat
  /-- The events still there, oldest first. -/
  kept : List Event

/-- The backlog of a subscriber who has read nothing of the events sent. -/
def Backlog.of (sent : List Event) : Backlog :=
  let lost := sent.length - broadcastCapacity
  ⟨lost, sent.drop lost⟩

/-- The stop signal as the dispatcher sees it. -/
inductive StopSignal
  | quiet
  | raised
  /-- The side that could raise it is gone. -/
  | lost
  deriving Repr, DecidableEq, Inhabited

/-- A dispatcher. -/
structure Dispatcher where
  /-- Events sent and not yet delivered, oldest first. -/
  queue : List Event
  /-- May more events be sent? -/
  hasSenders : Bool
  /-- The stop signal. -/
  signal : StopSignal
  /-- Has the dispatcher ended? -/
  ended : Bool
  /-- Calls made so far, in order. -/
  deliveries : List Delivery
  /-- Events broadcast so far, in order. -/
  broadcast : List Event

namespace Dispatcher

/-- A dispatcher with nothing queued. -/
def new : Dispatcher := ⟨[], true, .quiet, false, [], []⟩

/-- Queues an event; tells whether it was accepted. -/
def send (d : Dispatcher) (e : Event) : Bool × Dispatcher :=
  if d.ended then (false, d) else (true, { d with queue := d.queue ++ [e] })

/-- Delivers one event. -/
def deliver (listeners : Listeners) (d : Dispatcher) (e : Event) : Dispatcher :=
  { d with
    deliveries := d.deliveries ++ listeners.notify e
    broadcast := d.broadcast ++ [e] }

/-- Delivers what is queued. -/
def drain (listeners : Listeners) (d : Dispatcher) : Dispatcher :=
  d.queue.foldl (deliver listeners) { d with queue := [] }

/-- One turn: a queued event goes first; with none queued the dispatcher ends if no sender is left or
the signal is no longer quiet, and else waits (`none`). -/
def turn (listeners : Listeners) (d : Dispatcher) : Option Dispatcher :=
  if d.ended then none
  else match d.queue with
    | e :: rest => some (deliver listeners { d with queue := rest } e)
    | [] =>
      if ! d.hasSenders then some { d with ended := true }
      else if d.signal = .quiet then none
      else some { drain listeners d with ended := true }

/-- Turns until the dispatcher waits or has ended; each turn but the last delivers one of the queued
events, so their number and two turns more are enough. -/
def settle (listeners : Listeners) (d : Dispatcher) : Dispatcher :=
  go (d.queue.length + 2) d
where
  /-- At most so many turns. -/
  go : Nat → Dispatcher → Dispatcher
    | 0, d => d
    | n + 1, d => match turn listeners d with
      | some d' => go n d'
      | none => d

end Dispatcher

end DebugBridge
