import DebugBridge.PortPool
import Mathlib.Tactic.SplitIfs

/-!
# Which ports a pool holds

Taking a port changes one thing: a port that nobody held is held now. Giving a port back changes one
thing: that port is held no longer.

Results:
* `isHeld_of_take`, `eq_of_take_none`: what taking a port does to the ports held.
* `isHeld_release`: what giving one back does.
* `count_take`, `count_release`: the same as a balance.
* `mem_held`: the ports held, as a list.
-/

namespace DebugBridge.PortPool

variable {pool pool' : PortPool} {port : UInt16}

/-- The free ports below the mark are in order, and are ports of the pool. -/
structure Sound (pool : PortPool) : Prop where
  base_le : pool.base ≤ pool.mark
  mark_le : pool.mark ≤ limit
  within : ∀ p ∈ pool.returned, pool.base ≤ p ∧ p < pool.mark
  ascending : pool.returned.Pairwise (· < ·)

theorem isHeld_iff :
    pool.isHeld port = true ↔
      pool.base ≤ port.toNat ∧ port.toNat < pool.mark ∧ port.toNat ∉ pool.returned := by
  simp [isHeld, and_assoc]

/-! ## A new pool -/

theorem Sound.new (base : UInt16) : (new base).Sound where
  base_le := Nat.le_refl _
  mark_le := by
    have := base.toNat_lt
    simp only [PortPool.new, limit]
    omega
  within := nofun
  ascending := List.Pairwise.nil

@[simp] theorem isHeld_new (base : UInt16) : (new base).isHeld port = false := by
  simp only [isHeld, PortPool.new, List.contains_nil, Bool.not_false, Bool.and_true]
  grind

/-! ## Taking a port -/

theorem toNat_ofNat_of_lt_limit {p : Nat} (h : p < limit) : (UInt16.ofNat p).toNat = p :=
  UInt16.toNat_ofNat_of_lt' h

theorem Sound.take (h : pool.Sound) : pool.take.2.Sound := by
  obtain ⟨hbase, hmark, hwithin, hascending⟩ := h
  unfold PortPool.take
  split
  · rename_i p rest hreturned
    rw [hreturned] at hwithin hascending
    exact ⟨hbase, hmark, fun q hq => hwithin q (List.mem_cons_of_mem _ hq),
      (List.pairwise_cons.1 hascending).2⟩
  · rename_i hreturned
    split_ifs with hfree
    · exact ⟨by simp only; omega, hfree, by simp [hreturned], by simp [hreturned]⟩
    · exact ⟨hbase, hmark, hwithin, hascending⟩

/-- The lowest of the ports given back is held again. -/
theorem isHeld_of_returned (h : pool.Sound) {p : Nat} {rest : List Nat}
    (hreturned : pool.returned = p :: rest) (q : UInt16) :
    { pool with returned := rest }.isHeld q = (q == UInt16.ofNat p || pool.isHeld q) := by
  obtain ⟨-, hmark, hwithin, hascending⟩ := h
  rw [hreturned] at hwithin hascending
  have hp := hwithin p List.mem_cons_self
  have hrest : p ∉ rest := fun hmem =>
    Nat.lt_irrefl _ ((List.pairwise_cons.1 hascending).1 p hmem)
  have hnat : (UInt16.ofNat p).toNat = p := toNat_ofNat_of_lt_limit (by omega)
  have hq : q = UInt16.ofNat p ↔ q.toNat = p := by rw [← UInt16.toNat_inj, hnat]
  rw [Bool.eq_iff_iff, isHeld_iff, Bool.or_eq_true, beq_iff_eq, isHeld_iff, hreturned, hq]
  simp only [List.mem_cons, not_or]
  by_cases hqp : q.toNat = p
  · simp [hqp, hp, hrest]
  · simp [hqp]

/-- Otherwise the port at the mark is held. -/
theorem isHeld_of_mark (hreturned : pool.returned = []) (hfree : pool.mark < limit)
    (hbase : pool.base ≤ pool.mark) (q : UInt16) :
    { pool with mark := pool.mark + 1 }.isHeld q =
      (q == UInt16.ofNat pool.mark || pool.isHeld q) := by
  have hnat : (UInt16.ofNat pool.mark).toNat = pool.mark := toNat_ofNat_of_lt_limit hfree
  have hq : q = UInt16.ofNat pool.mark ↔ q.toNat = pool.mark := by
    rw [← UInt16.toNat_inj, hnat]
  rw [Bool.eq_iff_iff, isHeld_iff, Bool.or_eq_true, beq_iff_eq, isHeld_iff, hreturned, hq]
  simp only [List.not_mem_nil, not_false_eq_true, and_true]
  omega

/-- The port taken was free, and is the only one that is newly held. -/
theorem isHeld_of_take (h : pool.Sound) (ht : pool.take = (some port, pool')) :
    pool.isHeld port = false ∧ ∀ q, pool'.isHeld q = (q == port || pool.isHeld q) := by
  unfold PortPool.take at ht
  split at ht
  · rename_i p rest hreturned
    obtain ⟨rfl, rfl⟩ : UInt16.ofNat p = port ∧ { pool with returned := rest } = pool' := by
      simpa using ht
    have hp := h.within p (hreturned ▸ List.mem_cons_self)
    have hnat : (UInt16.ofNat p).toNat = p :=
      toNat_ofNat_of_lt_limit (Nat.lt_of_lt_of_le hp.2 h.mark_le)
    exact ⟨by simp [isHeld, hnat, hreturned], isHeld_of_returned h hreturned⟩
  · rename_i hreturned
    split_ifs at ht with hfree
    · obtain ⟨rfl, rfl⟩ : UInt16.ofNat pool.mark = port ∧
          { pool with mark := pool.mark + 1 } = pool' := by simpa using ht
      have hnat : (UInt16.ofNat pool.mark).toNat = pool.mark := toNat_ofNat_of_lt_limit hfree
      exact ⟨by simp [isHeld, hnat], isHeld_of_mark hreturned hfree h.base_le⟩
    · simp at ht

/-- Without a free port nothing changes. -/
theorem eq_of_take_none (ht : pool.take = (none, pool')) : pool' = pool := by
  unfold PortPool.take at ht
  split at ht
  · simp at ht
  · split_ifs at ht
    · simp at ht
    · simpa using ht.symm

/-! ## Giving a port back -/

theorem mem_insertAscending {p q : Nat} {l : List Nat} :
    q ∈ insertAscending p l ↔ q = p ∨ q ∈ l := by
  induction l with
  | nil => simp [insertAscending]
  | cons x rest ih => grind [insertAscending]

theorem ascending_insertAscending {p : Nat} {l : List Nat} (h : l.Pairwise (· < ·))
    (hp : p ∉ l) : (insertAscending p l).Pairwise (· < ·) := by
  induction l with
  | nil => simp [insertAscending]
  | cons x rest ih =>
    obtain ⟨hx, hrest⟩ := List.pairwise_cons.1 h
    obtain ⟨hpx, hprest⟩ : p ≠ x ∧ p ∉ rest := by simpa using hp
    rw [insertAscending]
    split_ifs with hlt
    · refine List.pairwise_cons.2 ⟨fun y hy => ?_, h⟩
      rcases List.mem_cons.1 hy with rfl | hy
      · exact hlt
      · exact Nat.lt_trans hlt (hx y hy)
    · refine List.pairwise_cons.2 ⟨fun y hy => ?_, ih hrest hprest⟩
      rcases mem_insertAscending.1 hy with rfl | hy
      · omega
      · exact hx y hy

theorem Sound.release (h : pool.Sound) (port : UInt16) : (pool.release port).Sound := by
  unfold PortPool.release
  split_ifs with hheld
  · obtain ⟨hlow, hhigh, hfree⟩ := isHeld_iff.1 hheld
    refine ⟨h.base_le, h.mark_le, fun p hp => ?_, ascending_insertAscending h.ascending hfree⟩
    rcases mem_insertAscending.1 hp with rfl | hp
    · exact ⟨hlow, hhigh⟩
    · exact h.within p hp
  · exact h

/-- Exactly the port given back is held no longer. -/
theorem isHeld_release (pool : PortPool) (port q : UInt16) :
    (pool.release port).isHeld q = (q != port && pool.isHeld q) := by
  have hq : q = port ↔ q.toNat = port.toNat := UInt16.toNat_inj.symm
  rw [Bool.eq_iff_iff, Bool.and_eq_true, bne_iff_ne, ne_eq, hq]
  unfold release
  split_ifs with hheld
  · simp only [isHeld_iff, mem_insertAscending, not_or]
    exact ⟨fun h => ⟨h.2.2.1, h.1, h.2.1, h.2.2.2⟩, fun h => ⟨h.2.1, h.2.2.1, h.1, h.2.2.2⟩⟩
  · constructor
    · refine fun h => ⟨fun heq => hheld ?_, h⟩
      rwa [← UInt16.toNat_inj.1 heq]
    · exact And.right

/-! ## The ports held, counted -/

/-- Taking a port makes one more held, if there was one. -/
theorem count_take (h : pool.Sound) (port : UInt16) :
    (pool.take.2.isHeld port).toNat = (pool.isHeld port).toNat + pool.take.1.toList.count port := by
  rcases htake : pool.take with ⟨taken, pool'⟩
  cases taken with
  | none => simp [eq_of_take_none htake]
  | some new =>
    obtain ⟨hfree, hheld⟩ := isHeld_of_take h htake
    rw [hheld, Option.toList_some, List.count_singleton]
    by_cases hport : port = new
    · simp [hport, hfree]
    · simp [Ne.symm hport, beq_eq_false_iff_ne.2 hport]

/-- Giving back a port that is held makes one less held. -/
theorem count_release {given : UInt16} (h : pool.isHeld given = true) (port : UInt16) :
    ((pool.release given).isHeld port).toNat + [given].count port = (pool.isHeld port).toNat := by
  rw [isHeld_release, List.count_singleton]
  by_cases hport : port = given
  · simp [hport, h]
  · simp [Ne.symm hport, bne_iff_ne.2 hport]

/-! ## The ports held, as a list -/

theorem mem_held (h : pool.Sound) : port ∈ pool.held ↔ pool.isHeld port = true := by
  have hmark := h.mark_le
  rw [isHeld_iff]
  simp only [held, List.mem_filterMap, List.mem_range'_1]
  constructor
  · rintro ⟨p, hp, heq⟩
    split_ifs at heq with hreturned
    obtain rfl : UInt16.ofNat p = port := by simpa using heq
    rw [toNat_ofNat_of_lt_limit (by omega)]
    exact ⟨hp.1, by omega, by simpa using hreturned⟩
  · rintro ⟨hlow, hhigh, hfree⟩
    exact ⟨port.toNat, ⟨hlow, by omega⟩, by simp [hfree]⟩

end DebugBridge.PortPool
