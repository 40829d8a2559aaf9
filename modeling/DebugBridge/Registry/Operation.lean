import DebugBridge.Registry.Basic

/-!
# Operations on the registry

The changes that can be made to a registry, as values, so that any history of a registry is a list of
them.
-/

namespace DebugBridge

/-- A change to be made to the registry. -/
inductive Operation
  | applyList (list : List Listed)
  | clear
  | addClient (c : Client)
  | removeClient (serial : String) (pid : UInt32)
  | retainClients (serial : String) (pids : List UInt32)
  | clearClients (serial : String)
  | setProperties (serial : String) (properties : Dict String)
  | setMountPoint (serial name path : String)
  | setAvdName (serial name : String)

/-- Does the operation concern all devices, and not just one? -/
def Operation.isSweep : Operation → Bool
  | .applyList _ | .clear => true
  | _ => false

namespace Registry

/-- The registry after an operation, and the events that it publishes. -/
def perform (reg : Registry) : Operation → Registry × List Event
  | .applyList list => published (reg.applyList list)
  | .clear => published reg.clear
  | .addClient c => published (reg.addClient c)
  | .removeClient serial pid => published (reg.removeClient serial pid)
  | .retainClients serial pids => published (reg.retainClients serial pids)
  | .clearClients serial => published (reg.clearClients serial)
  | .setProperties serial properties => published (reg.setProperties serial properties)
  | .setMountPoint serial name path => published (reg.setMountPoint serial name path)
  | .setAvdName serial name => published (reg.setAvdName serial name)
where
  /-- An update without its answer. -/
  published {α : Type} (u : Update α) : Registry × List Event := (u.registry, u.events)

/-- The registry after some operations, and all events that they publish, in order. -/
def performAll (reg : Registry) : List Operation → Registry × List Event
  | [] => (reg, [])
  | op :: ops =>
    let (next, events) := reg.perform op
    let (last, more) := next.performAll ops
    (last, events ++ more)

end Registry

end DebugBridge
