import DebugBridge.Device.Basic

/-!
# Listeners

A listener is registered under a number that is never used again. An event is delivered to the
listeners registered at that moment, in the order of their registration, each by the callback for
the kind of event.
-/

namespace DebugBridge

/-- The call that a listener receives. -/
inductive Callback
  | deviceConnected (device : Snapshot)
  | deviceChanged (device : Snapshot) (what : Change)
  | deviceDisconnected (device : Snapshot)
  deriving DecidableEq

/-- The callback for an event. -/
def Event.callback : Event → Callback
  | .connected d => .deviceConnected d
  | .changed d what => .deviceChanged d what
  | .disconnected d => .deviceDisconnected d

/-- A call and the listener that receives it. -/
structure Delivery where
  /-- The listener's number. -/
  listener : Nat
  /-- The call. -/
  callback : Callback
  deriving DecidableEq

/-- The registered listeners. -/
structure Listeners where
  /-- The number of the next listener. -/
  next : Nat
  /-- The numbers of the registered listeners, in the order of registration. -/
  registered : List Nat
  deriving Repr, DecidableEq, Inhabited

namespace Listeners

/-- Nobody listens. -/
def empty : Listeners := ⟨0, []⟩

/-- Registers a listener and gives its number. -/
def add (l : Listeners) : Nat × Listeners := (l.next, ⟨l.next + 1, l.registered ++ [l.next]⟩)

/-- Removes a listener; tells whether it was registered. -/
def remove (l : Listeners) (id : Nat) : Bool × Listeners :=
  (l.registered.contains id, { l with registered := l.registered.filter (· != id) })

/-- The number of registered listeners. -/
def size (l : Listeners) : Nat := l.registered.length

/-- The calls that an event brings about, in order. -/
def notify (l : Listeners) (e : Event) : List Delivery :=
  l.registered.map fun id => ⟨id, e.callback⟩

end Listeners

end DebugBridge
