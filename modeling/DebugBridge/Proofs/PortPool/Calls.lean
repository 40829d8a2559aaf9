import DebugBridge.PortPool.Calls
import DebugBridge.Proofs.PortPool
import Mathlib.Order.Bounds.Basic

/-!
# A pool hands out the lowest free port

The ports held are those that the log of the calls shows as taken (`Follows`). A port that is taken is
the lowest that is not held: the ports given back are in order and below the mark, and from the mark on no
port is held.

Results:
* `isLeast_of_take`, `take_eq_none_iff`, which port is taken;
* `ascending_held`, the order of the ports held;
* `Follows.perform`, what each call preserves;
* `run_pool`, what is so after any calls.
-/

namespace DebugBridge.PortPool

variable {pool : PortPool} {port : UInt16} {base : UInt16} {log : List Entry}

/-! ## The lowest free port -/

/-- A free port stands among those given back, or is not below the mark. -/
theorem returned_or_mark_le (hbase : pool.base ≤ port.toNat) (hfree : pool.isHeld port = false) :
    port.toNat ∈ pool.returned ∨ pool.mark ≤ port.toNat := by
  by_contra hneither
  rw [not_or, Nat.not_le] at hneither
  have hheld := isHeld_iff.2 ⟨hbase, hneither.2, hneither.1⟩
  rw [hfree] at hheld
  cases hheld

/-- A free number that is not above any port given back, nor above the mark, is the lowest free port. -/
theorem isLeast_ofNat {n : Nat} (hlt : n < limit) (hbase : pool.base ≤ n)
    (hfree : pool.isHeld (UInt16.ofNat n) = false) (hreturned : ∀ m ∈ pool.returned, n ≤ m)
    (hmark : n ≤ pool.mark) :
    IsLeast {p | pool.base ≤ p.toNat ∧ pool.isHeld p = false} (UInt16.ofNat n) := by
  have hnat : (UInt16.ofNat n).toNat = n := toNat_ofNat_of_lt_limit hlt
  refine ⟨⟨hnat.symm ▸ hbase, hfree⟩, fun q ⟨hq, hqfree⟩ => ?_⟩
  rw [UInt16.le_iff_toNat_le, hnat]
  rcases returned_or_mark_le hq hqfree with hmem | hle
  · exact hreturned _ hmem
  · exact hmark.trans hle

theorem isLeast_of_take (h : pool.Sound) (ht : pool.take.1 = some port) :
    IsLeast {p | pool.base ≤ p.toNat ∧ pool.isHeld p = false} port := by
  have hfree : pool.isHeld port = false := (isHeld_of_take h (Prod.ext ht rfl)).1
  unfold PortPool.take at ht
  split at ht
  · rename_i p rest hreturned
    obtain rfl := Option.some.inj ht
    have hp := h.within p (hreturned ▸ List.mem_cons_self)
    refine isLeast_ofNat (Nat.lt_of_lt_of_le hp.2 h.mark_le) hp.1 hfree ?_ (Nat.le_of_lt hp.2)
    have hascending := h.ascending
    rw [hreturned] at hascending ⊢
    have hlater := (List.pairwise_cons.1 hascending).1
    exact List.forall_mem_cons.2 ⟨Nat.le_refl p, fun m hm => Nat.le_of_lt (hlater m hm)⟩
  · rename_i hreturned
    split_ifs at ht with hlt
    obtain rfl := Option.some.inj ht
    exact isLeast_ofNat hlt h.base_le hfree (hreturned ▸ nofun) (Nat.le_refl _)

/-- The pool is exhausted exactly if all its ports are held. -/
theorem take_eq_none_iff (h : pool.Sound) :
    pool.take.1 = none ↔ ∀ p : UInt16, pool.base ≤ p.toNat → pool.isHeld p = true := by
  constructor
  · intro ht p hbase
    unfold PortPool.take at ht
    split at ht
    · cases ht
    · rename_i hreturned
      split_ifs at ht with hlt
      refine isHeld_iff.2 ⟨hbase, ?_, hreturned ▸ List.not_mem_nil⟩
      exact Nat.lt_of_lt_of_le p.toNat_lt (Nat.not_lt.1 hlt)
  · intro hall
    cases ht : pool.take.1 with
    | none => rfl
    | some port =>
      obtain ⟨hbase, hfree⟩ := (isLeast_of_take h ht).1
      rw [hall port hbase] at hfree
      cases hfree

theorem take_eq_some_iff (h : pool.Sound) :
    pool.take.1 = some port ↔
      IsLeast {p | pool.base ≤ p.toNat ∧ pool.isHeld p = false} port := by
  refine ⟨isLeast_of_take h, fun hleast => ?_⟩
  cases ht : pool.take.1 with
  | none =>
    have hheld := (take_eq_none_iff h).1 ht port hleast.1.1
    rw [hleast.1.2] at hheld
    cases hheld
  | some q =>
    have hq := isLeast_of_take h ht
    rw [UInt16.le_antisymm (hq.2 hleast.1) (hleast.2 hq.1)]

/-! ## The ports held, in order -/

theorem ascending_held (h : pool.Sound) : pool.held.Pairwise (· < ·) := by
  have hmark := h.mark_le
  rw [held, List.pairwise_filterMap]
  refine List.Pairwise.imp_of_mem (fun {p q} hp hq hlt port hport other hother => ?_)
    List.pairwise_lt_range'
  rw [List.mem_range'_1] at hp hq
  split_ifs at hport hother
  obtain rfl := Option.some.inj hport
  obtain rfl := Option.some.inj hother
  rw [UInt16.lt_iff_toNat_lt, toNat_ofNat_of_lt_limit (by omega), toNat_ofNat_of_lt_limit (by omega)]
  exact hlt

/-! ## Calls -/

/-- A pool that has come out of a new one by the calls of a log. -/
structure Follows (base : UInt16) (log : List Entry) (pool : PortPool) : Prop where
  sound : pool.Sound
  base_eq : pool.base = base.toNat
  isHeld_iff : ∀ port, pool.isHeld port = true ↔ IsTaken log port

theorem Follows.new (base : UInt16) : Follows base [] (new base) where
  sound := .new base
  base_eq := rfl
  isHeld_iff port := by simp [IsTaken, Logged.not_lasts_nil]

theorem base_take (pool : PortPool) : pool.take.2.base = pool.base := by
  unfold PortPool.take
  split
  · rfl
  · split_ifs <;> rfl

theorem base_release (pool : PortPool) (port : UInt16) : (pool.release port).base = pool.base := by
  unfold PortPool.release
  split_ifs <;> rfl

theorem Follows.take (h : Follows base log pool) :
    Follows base (log ++ [.took pool.take.1]) pool.take.2 := by
  refine ⟨h.sound.take, (base_take pool).trans h.base_eq, fun port => ?_⟩
  have hentry : Entry.took pool.take.1 = .took (some port) ↔ pool.take.1 = some port := by simp
  rw [IsTaken, Logged.lasts_concat, hentry, ← IsTaken, ← h.isHeld_iff port]
  rcases htake : pool.take with ⟨_ | taken, after⟩
  · rw [eq_of_take_none htake]
    simp
  · rw [(isHeld_of_take h.sound htake).2 port]
    simp [@eq_comm _ port]

theorem Follows.release (h : Follows base log pool) (given : UInt16) :
    Follows base (log ++ [.released given]) (pool.release given) := by
  refine ⟨h.sound.release given, (base_release pool given).trans h.base_eq, fun port => ?_⟩
  rw [IsTaken, Logged.lasts_concat, ← IsTaken, ← h.isHeld_iff port, isHeld_release]
  simp [and_comm, @eq_comm _ port]

theorem Follows.perform (h : Follows base log pool) (call : Call) :
    Follows base (log ++ [(pool.perform call).1]) (pool.perform call).2 := by
  cases call with
  | take => exact h.take
  | release given => exact h.release given

/-- **Main theorem.** A pool is used by any calls, with any ports given back. Then the next port that is
taken is the lowest from the base on that is not taken; there is none exactly if all are taken, and then
nothing changes. The ports held, in ascending order, are those taken and not given back since, and all of
them lie at or above the base. -/
theorem run_pool (base : UInt16) (calls : List Call) :
    let log := (Logged.run perform (new base) calls).1
    let pool := (Logged.run perform (new base) calls).2
    log.map Entry.call = calls ∧
    (∀ port, pool.take.1 = some port ↔ IsLeast {p | base ≤ p ∧ ¬ IsTaken log p} port) ∧
    (pool.take.1 = none ↔ ∀ port, base ≤ port → IsTaken log port) ∧
    (pool.take.1 = none → pool.take.2 = pool) ∧
    pool.held.Pairwise (· < ·) ∧
    (∀ port, port ∈ pool.held ↔ IsTaken log port) ∧
    ∀ port ∈ pool.held, base ≤ port := by
  intro log pool
  have hstep : ∀ log pool call, Follows base log pool →
      Follows base (log ++ [(perform pool call).1]) (perform pool call).2 :=
    fun _ _ call h => h.perform call
  have hfollows : Follows base log pool := Logged.run_induction hstep (Follows.new base) calls
  have hbase (p : UInt16) : pool.base ≤ p.toNat ↔ base ≤ p := by
    rw [hfollows.base_eq, UInt16.le_iff_toNat_le]
  have hfree (p : UInt16) : pool.isHeld p = false ↔ ¬ IsTaken log p := by
    rw [← hfollows.isHeld_iff p, Bool.not_eq_true]
  refine ⟨Logged.map_run (fun _ call => ?_) _ calls, fun port => ?_, ?_,
    fun hnone => eq_of_take_none (Prod.ext hnone rfl), ascending_held hfollows.sound, fun port => ?_,
    fun port hport => ?_⟩
  · cases call <;> rfl
  · simp only [take_eq_some_iff hfollows.sound, hbase, hfree]
  · simp only [take_eq_none_iff hfollows.sound, hbase, hfollows.isHeld_iff]
  · rw [mem_held hfollows.sound, hfollows.isHeld_iff]
  · exact (hbase port).1 (isHeld_iff.1 ((mem_held hfollows.sound).1 hport)).1

/-- A port that came back is taken again before a higher one, and the last port is the highest of all. -/
example :
    (Logged.run perform (new 65533) [.take, .take, .release 65533, .release 9, .take, .take, .take]).1 =
      [.took (some 65533), .took (some 65534), .released 65533, .released 9, .took (some 65533),
        .took (some 65535), .took none] := by
  decide

end DebugBridge.PortPool
