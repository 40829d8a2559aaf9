import DebugBridge.Device.Basic

/-!
# The forward table

A table of forwards in the order in which they were made. A local end has at most one forward,
whatever its device.
-/

namespace DebugBridge

/-- Forwards in the order in which they were made. -/
abbrev ForwardTable := List ForwardRule

namespace ForwardTable

/-- Makes a forward, in the place of any other with the same local end. -/
def create (table : ForwardTable) (r : ForwardRule) : ForwardTable :=
  table.filter (·.localSpec != r.localSpec) ++ [r]

/-- Removes the forward of a device with a local end; none if there is none. -/
def remove (table : ForwardTable) (serial localSpec : String) : Option ForwardTable :=
  let isIt := fun (r : ForwardRule) => r.serial == serial && r.localSpec == localSpec
  if table.any isIt then some (table.filter fun r => ! isIt r) else none

/-- The forwards of a device. -/
def ofDevice (table : ForwardTable) (serial : String) : ForwardTable :=
  table.filter (·.serial == serial)

end ForwardTable

end DebugBridge
