import DebugBridge.Logged
import DebugBridge.PortPool

/-!
# Calls on a pool of ports

What is asked of a pool, as values, so that any use of a pool is a list of them. Any port may be given
back, also one that nobody holds.
-/

namespace DebugBridge.PortPool

/-- A call on a pool. -/
inductive Call
  | take
  | release (port : UInt16)
  deriving Repr, DecidableEq, Inhabited

/-- A call, with what it gave. -/
inductive Entry
  | took (port : Option UInt16)
  | released (port : UInt16)
  deriving Repr, DecidableEq, Inhabited

/-- The call of an entry. -/
def Entry.call : Entry → Call
  | .took _ => .take
  | .released port => .release port

/-- The pool is called. -/
def perform (pool : PortPool) : Call → Entry × PortPool
  | .take => (.took pool.take.1, pool.take.2)
  | .release port => (.released port, pool.release port)

/-- Has a port been taken, and not been given back since? -/
def IsTaken (log : List Entry) (port : UInt16) : Prop :=
  Logged.Lasts (· = .took (some port)) (· = .released port) log

end DebugBridge.PortPool
