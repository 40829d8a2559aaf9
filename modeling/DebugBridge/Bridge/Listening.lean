import DebugBridge.Bridge.Basic

/-!
# What a listener of a bridge hears

The calls to one listener are those of all deliveries that are made to it. A listener who hears of a
device hears of its visits (`Callback.Visits`): it comes, perhaps changes some times, and goes, and
comes again only after that.
-/

namespace DebugBridge

namespace Callback

/-- The serial of the device that a call is about. -/
def serial : Callback → String
  | .deviceConnected d | .deviceChanged d _ | .deviceDisconnected d => d.serial

/-- Does the call tell of a change? -/
def isChange : Callback → Bool
  | .deviceChanged _ _ => true
  | _ => false

/-- Calls that tell of visits of a device, one after the other, the last of which is over. -/
inductive Visits : List Callback → Prop
  | nil : Visits []
  | cons {came gone : Snapshot} {changes calls : List Callback}
    (hchanges : ∀ c ∈ changes, c.isChange = true) (hcalls : Visits calls) :
    Visits (.deviceConnected came :: (changes ++ .deviceDisconnected gone :: calls))

end Callback

/-- The calls to a listener so far, in order. -/
def Dispatcher.callsTo (d : Dispatcher) (id : Nat) : List Callback :=
  (d.deliveries.filter (·.listener == id)).map (·.callback)

namespace Bridge

/-- The step of the monitor or of a task that a step of a bridge is, if it is one. -/
def Move.system? : Move → Option System.Move
  | .system m => some m
  | _ => none

/-- The steps of the monitor and its tasks in some steps of a bridge. -/
def systemMoves (moves : List Move) : List System.Move := moves.filterMap (·.system?)

end Bridge

end DebugBridge
