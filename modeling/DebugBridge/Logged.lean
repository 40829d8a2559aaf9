/-!
# Calls and their log

Something with a state is called, again and again. Each call leaves an entry in a log, which tells the
call and what came of it. The log, and not the state, is what the callers have seen; what is so at its end
may be told by what has begun in it and has not ended since (`Lasts`).

Results: `run_induction`, what one call preserves is preserved by any calls; `lasts_concat`, what one more
entry changes.
-/

namespace DebugBridge.Logged

variable {σ κ ε : Type}

/-- One call after the other: their entries, and the state in the end. -/
def run (perform : σ → κ → ε × σ) (s : σ) : List κ → List ε × σ
  | [] => ([], s)
  | call :: calls =>
    let (entry, s) := perform s call
    let (log, s) := run perform s calls
    (entry :: log, s)

/-- Something has begun in a log, and has not ended since. -/
def Lasts (begins ends : ε → Prop) (log : List ε) : Prop :=
  ∃ before entry after, log = before ++ entry :: after ∧ begins entry ∧ ∀ x ∈ after, ¬ ends x

/-! ## Runs -/

variable {perform : σ → κ → ε × σ}

/-- The log goes on behind what it held before. -/
theorem run_induction {holds : List ε → σ → Prop}
    (step : ∀ log s call, holds log s → holds (log ++ [(perform s call).1]) (perform s call).2)
    {log : List ε} {s : σ} (h : holds log s) (calls : List κ) :
    holds (log ++ (run perform s calls).1) (run perform s calls).2 := by
  induction calls generalizing log s with
  | nil =>
    rw [run, List.append_nil]
    exact h
  | cons call calls ih =>
    have hlast := ih (step log s call h)
    rwa [List.append_assoc] at hlast

/-- If each entry tells its call, the log tells the calls. -/
theorem map_run {callOf : ε → κ} (h : ∀ s call, callOf (perform s call).1 = call) (s : σ)
    (calls : List κ) : (run perform s calls).1.map callOf = calls := by
  induction calls generalizing s with
  | nil => rfl
  | cons call calls ih => rw [run, List.map_cons, h, ih]

/-! ## What lasts -/

variable {begins ends : ε → Prop} {log : List ε}

theorem not_lasts_nil : ¬ Lasts begins ends [] := by
  rintro ⟨before, entry, after, h, -⟩
  cases before <;> cases h

theorem lasts_concat {x : ε} :
    Lasts begins ends (log ++ [x]) ↔ begins x ∨ Lasts begins ends log ∧ ¬ ends x := by
  constructor
  · rintro ⟨before, entry, after, h, hbegins, hafter⟩
    rcases List.eq_nil_or_concat after with rfl | ⟨front, last, rfl⟩
    · obtain ⟨-, rfl⟩ := List.append_singleton_inj.1 h
      exact .inl hbegins
    · rw [List.concat_eq_append, ← List.cons_append, ← List.append_assoc] at h
      obtain ⟨rfl, rfl⟩ := List.append_singleton_inj.1 h
      rw [List.concat_eq_append, List.forall_mem_append, List.forall_mem_singleton] at hafter
      exact .inr ⟨⟨before, entry, front, rfl, hbegins, hafter.1⟩, hafter.2⟩
  · rintro (hbegins | ⟨⟨before, entry, after, rfl, hbegins, hafter⟩, hx⟩)
    · exact ⟨log, x, [], rfl, hbegins, nofun⟩
    · refine ⟨before, entry, after ++ [x], by rw [List.append_assoc, List.cons_append], hbegins, ?_⟩
      rw [List.forall_mem_append, List.forall_mem_singleton]
      exact ⟨hafter, hx⟩

end DebugBridge.Logged
