/-!
# The pool of debugger ports

Each debuggable client is given a local port. The pool hands out the lowest free port at or above
its base, up to 65535, and takes ports back.

All ports from the base up to a mark have been handed out at least once; those of them that came back
are kept in ascending order, and the first of these is the next port to go out.
-/

namespace DebugBridge

/-- The pool of local ports from a base up to 65535. -/
structure PortPool where
  /-- The lowest port of the pool. -/
  base : Nat
  /-- The lowest port that was never handed out. -/
  mark : Nat
  /-- The ports below the mark that are free, ascending. -/
  returned : List Nat
  deriving Repr, DecidableEq, Inhabited

namespace PortPool

/-- One more than the highest port. -/
def limit : Nat := 65536

/-- A pool with all ports free. -/
def new (base : UInt16) : PortPool := ⟨base.toNat, base.toNat, []⟩

/-- Puts a number in its place in an ascending list that lacks it. -/
def insertAscending (p : Nat) : List Nat → List Nat
  | [] => [p]
  | q :: rest => if p < q then p :: q :: rest else q :: insertAscending p rest

/-- Takes the lowest free port, if one is free. -/
def take (pool : PortPool) : Option UInt16 × PortPool :=
  match pool.returned with
  | p :: rest => (some (UInt16.ofNat p), { pool with returned := rest })
  | [] =>
    if pool.mark < limit then (some (UInt16.ofNat pool.mark), { pool with mark := pool.mark + 1 })
    else (none, pool)

/-- Is a port held by someone? -/
def isHeld (pool : PortPool) (port : UInt16) : Bool :=
  pool.base ≤ port.toNat && port.toNat < pool.mark && ! pool.returned.contains port.toNat

/-- Gives a port back; a port that nobody holds changes nothing. -/
def release (pool : PortPool) (port : UInt16) : PortPool :=
  if pool.isHeld port then { pool with returned := insertAscending port.toNat pool.returned }
  else pool

/-- Gives back several ports. -/
def releaseAll (pool : PortPool) (ports : List UInt16) : PortPool := ports.foldl release pool

/-- The number of ports held. -/
def count (pool : PortPool) : Nat := pool.mark - pool.base - pool.returned.length

/-- The ports held, ascending. -/
def held (pool : PortPool) : List UInt16 :=
  (List.range' pool.base (pool.mark - pool.base)).filterMap fun p =>
    if pool.returned.contains p then none else some (UInt16.ofNat p)

end PortPool

end DebugBridge
