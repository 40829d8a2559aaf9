import DebugBridge.Events.Listeners
import DebugBridge.Logged

/-!
# Calls on the registered listeners

Listeners come, go and are told of events. The calls are values here, so that any use of the listeners is
a list of them. A listener goes by the number that it was given when it came.
-/

namespace DebugBridge.Listeners

/-- A call on the registered listeners. -/
inductive Call
  | add
  | remove (id : Nat)
  | notify (e : Event)

/-- A call, with what came of it. -/
inductive Entry
  | added (id : Nat)
  | removed (id : Nat) (wasRegistered : Bool)
  | notified (e : Event) (deliveries : List Delivery)

namespace Entry

/-- The call of an entry. -/
def call : Entry → Call
  | .added _ => .add
  | .removed id _ => .remove id
  | .notified e _ => .notify e

/-- The number that was given. -/
def added? : Entry → Option Nat
  | .added id => some id
  | _ => none

/-- The number under which nobody is registered any more. -/
def removed? : Entry → Option Nat
  | .removed id true => some id
  | _ => none

end Entry

/-- The listeners are called. -/
def perform (l : Listeners) : Call → Entry × Listeners
  | .add => (.added l.add.1, l.add.2)
  | .remove id => (.removed id (l.remove id).1, (l.remove id).2)
  | .notify e => (.notified e (l.notify e), l)

/-- The numbers that were given, in order. -/
def addedIds (log : List Entry) : List Nat := log.filterMap Entry.added?

/-- The numbers that were removed with success. -/
def removedIds (log : List Entry) : List Nat := log.filterMap Entry.removed?

/-- Has a listener come under this number, and not gone since? -/
def IsRegistered (log : List Entry) (id : Nat) : Prop :=
  Logged.Lasts (· = .added id) (·.call = .remove id) log

end DebugBridge.Listeners
