import DebugBridge.Events.Dispatcher
import DebugBridge.Monitor.System

/-!
# The bridge

A bridge holds a monitor with its tasks, and a dispatcher that delivers their events to listeners. To
shut down, it tells the monitor to stop and waits for its end, then tells the dispatcher and waits
for its end; so the last events are still delivered.
-/

namespace DebugBridge

/-- How far a bridge has been shut down. -/
inductive Stage
  | running
  /-- The monitor has been told to stop. -/
  | stopping
  /-- The monitor has ended and the dispatcher has been told to stop. -/
  | draining
  /-- The dispatcher has ended. -/
  | down
  deriving Repr, DecidableEq, Inhabited

/-- A bridge. -/
structure Bridge where
  /-- The monitor and its tasks. -/
  system : System
  /-- The dispatcher of their events. -/
  dispatcher : Dispatcher
  /-- The listeners. -/
  listeners : Listeners
  /-- How far it has been shut down. -/
  stage : Stage

namespace Bridge

/-- A bridge that has just been started; the settings must name an address. -/
def start (s : Settings) : Except Error Bridge :=
  s.endpoint.map fun _ => ⟨.start s.monitor, .new, .empty, .running⟩

/-- Registers a listener and gives its number. -/
def listen (b : Bridge) : Nat × Bridge :=
  let (id, listeners) := b.listeners.add
  (id, { b with listeners })

/-- Removes a listener; tells whether it was registered. -/
def unlisten (b : Bridge) (id : Nat) : Bool × Bridge :=
  let (known, listeners) := b.listeners.remove id
  (known, { b with listeners })

/-- Queues some events. -/
def sendAll (d : Dispatcher) (events : List Event) : Dispatcher :=
  events.foldl (fun d e => (d.send e).2) d

/-- The bridge with another monitor, whose new events are queued. -/
def withSystem (b : Bridge) (s : System) : Bridge :=
  { b with
    system := s
    dispatcher := sendAll b.dispatcher (s.events.drop b.system.events.length) }

/-- A step of a bridge. -/
inductive Move
  /-- A step of the monitor or of a task; the monitor is told to stop by the bridge alone. -/
  | system (m : System.Move)
  /-- The dispatcher takes a turn. -/
  | dispatch
  /-- The bridge goes on shutting down. -/
  | shutdown
  | listen
  | unlisten (id : Nat)

/-- May the monitor or a task take the step? -/
def allows (b : Bridge) : System.Move → Bool
  | .hear .shutdown => b.stage == .stopping
  | _ => true

/-- Takes a step, if it is possible. -/
def move (b : Bridge) : Move → Option Bridge
  | .system m => if b.allows m then (b.system.move m).map b.withSystem else none
  | .dispatch => (b.dispatcher.turn b.listeners).map fun d => { b with dispatcher := d }
  | .shutdown =>
    match b.stage with
    | .running => some { b with stage := .stopping }
    | .stopping =>
      if b.system.agenda.isEmpty then
        some { b with stage := .draining, dispatcher := { b.dispatcher with signal := .raised } }
      else none
    | .draining => if b.dispatcher.ended then some { b with stage := .down } else none
    | .down => some b
  | .listen => some b.listen.2
  | .unlisten id => some (b.unlisten id).2

/-- Takes some steps in order, if all are possible. -/
def run (b : Bridge) (moves : List Move) : Option Bridge := moves.foldlM move b

end Bridge

end DebugBridge
