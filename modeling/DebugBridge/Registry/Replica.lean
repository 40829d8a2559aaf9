import DebugBridge.Registry.Basic

/-!
# A replica kept by events

A replica is what someone knows of the devices who sees only the published events: an arrival adds a
snapshot, a change replaces it, a farewell removes it.

An event fits a replica (`Replica.Fits`) if it tells of something that can have happened to the
devices as the replica knows them.
-/

namespace DebugBridge

/-- The devices by serial, as told by events. -/
abbrev Replica := Dict Snapshot

/-- Do two snapshots agree in all that a kind of change leaves alone? -/
def Snapshot.AgreesBut (what : Change) (old new : Snapshot) : Prop :=
  match what with
  | .state => new = { old with state := new.state }
  | .clientList => new = { old with clients := new.clients }
  | .buildInfo =>
    new = { old with
      properties := new.properties, mountPoints := new.mountPoints, avdName := new.avdName }

namespace Replica

/-- Takes in one event. -/
def apply (m : Replica) : Event → Replica
  | .connected d => m.insert d.serial d
  | .changed d _ => m.insert d.serial d
  | .disconnected d => m.erase d.serial

/-- Takes in events in order. -/
def applyAll (m : Replica) (events : List Event) : Replica := events.foldl apply m

/-- The snapshots, in the order of the serials. -/
def devices (m : Replica) : List Snapshot := m.entries.map (·.2)

/-- An event that can have happened to the devices of a replica: a device that arrives is not known; one
that changes is known, and differs from what is known in the part that the event names and in no
other; one that leaves is known, and leaves with what is known of it but its state. -/
def Fits (m : Replica) : Event → Prop
  | .connected d => m.get? d.serial = none
  | .changed d what => ∃ old, m.get? d.serial = some old ∧ d ≠ old ∧ old.AgreesBut what d
  | .disconnected d =>
    ∃ old, m.get? d.serial = some old ∧ d = { old with state := .disconnected }

/-- Events each of which fits the replica that has taken in those before it. -/
def FitsAll (m : Replica) : List Event → Prop
  | [] => True
  | e :: events => m.Fits e ∧ (m.apply e).FitsAll events

end Replica

/-- The replica of one who knows the registry itself. -/
def Registry.replica (reg : Registry) : Replica :=
  reg.records.mapWithKey fun serial r => r.snapshot serial

end DebugBridge
