import DebugBridge.Duration.Parts

/-!
# Waits between attempts

The wait before an attempt doubles with each failure in a row, from a first wait up to a longest one.
After 32 doublings the factor stays at 2^32 - 1.
-/

namespace DebugBridge

/-- The factor of the first wait after so many failures in a row. -/
def backoffFactor (failures : Nat) : Nat :=
  if failures - 1 < 32 then 1 <<< (failures - 1) else UInt32.size - 1

/-- The wait after so many failures in a row. -/
def backoff (failures : Nat) (initial longest : Duration) : Duration :=
  (initial.times (backoffFactor failures)).shorter longest

/-- The factor, in a word. A word is shifted by less than its length only. -/
def backoffWord (failures : UInt32) : UInt32 :=
  let doublings := if failures = 0 then 0 else failures - 1
  if doublings < 32 then 1 <<< doublings else 4294967295

/-- The wait as a machine finds it, of spans in two words. -/
def backoffParts? (failures : UInt32) (initial longest : Parts) : Option Parts :=
  (initial.times? (backoffWord failures)).map (·.shorter longest)

end DebugBridge
