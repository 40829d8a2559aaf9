import DebugBridge.Wire.Connection

/-!
# Recorded daemons

A daemon that is recorded reacts as it does, and all bytes that are sent to it are kept.
-/

namespace DebugBridge

/-- A daemon, with what was sent to it. -/
structure Recorded (D : Type) where
  /-- The daemon. -/
  daemon : D
  /-- The bytes sent to it, over all connections. -/
  told : Bytes
  deriving Repr, DecidableEq, Inhabited

namespace Recorded

variable {D S : Type} [Daemon D S]

instance : Daemon (Recorded D) S where
  address d := Daemon.address d.daemon
  accept d := (Daemon.accept d.daemon).map fun (daemon, session, stream) =>
    ({ d with daemon }, session, stream)
  receive d session b :=
    let r := Daemon.receive d.daemon session b
    ⟨⟨r.daemon, d.told ++ b⟩, r.session, r.answer, r.ending⟩

@[simp] theorem told_receive (d : Recorded D) (session : S) (b : Bytes) :
    (Daemon.receive d session b).daemon.told = d.told ++ b := rfl

/-- Nothing is sent when a connection is opened. -/
theorem told_dial {d : Recorded D} {w : Wire (Recorded D) S} (h : (Net.dial d).1 = .ok w) :
    w.daemon.told = d.told := by
  rcases haccept : Daemon.accept d.daemon with _ | ⟨daemon, session, stream⟩
  · have hnone : Daemon.accept d = none := by
      show Option.map _ (Daemon.accept d.daemon) = none
      rw [haccept]
      rfl
    rw [Net.dial, hnone] at h
    cases h
  · have hsome : Daemon.accept d = some (⟨daemon, d.told⟩, session, stream) := by
      show Option.map _ (Daemon.accept d.daemon) = _
      rw [haccept]
      rfl
    rw [Net.dial, hsome] at h
    cases h
    rfl

end Recorded

end DebugBridge
