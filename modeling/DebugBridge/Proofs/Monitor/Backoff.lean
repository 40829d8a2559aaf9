import DebugBridge.Monitor.Backoff
import Mathlib.Algebra.Order.Ring.Nat
import Mathlib.Tactic.Ring
import Mathlib.Tactic.SplitIfs

/-!
# Waits on a machine

A machine multiplies a span in two words: the nanoseconds first, whose product with a factor of 32 bits
always fits a word, then the seconds, with what the nanoseconds carry. So the machine never stops, and the
product is exact as long as it is a span (`span_times?`). The factor is a power of two at first and
2^32 - 1 in the end; this does not matter for a longest wait that this factor reaches.

Results:
* `wordProduct?_eq_some_iff`, `wordSum?_eq_some_iff`, words without overflow;
* `exists_span`, every span has two words;
* `span_times?`, `span_shorter`, spans in two words are multiplied and compared as spans;
* `backoff_le_backoff`, `backoff_eq_min`, the wait grows with all that it depends on, and is a power of
  two times the first one;
* `backoff_course`, all of this for a machine.
-/

namespace DebugBridge

/-! ## Words -/

section

variable {a b c : UInt64}

theorem wordProduct?_eq_some_iff : wordProduct? a b = some c ↔ a.toNat * b.toNat = c.toNat := by
  rw [wordProduct?]
  split_ifs with h
  · rw [Option.some_inj, ← UInt64.toNat_inj, UInt64.toNat_mul, Nat.mod_eq_of_lt h]
  · exact ⟨nofun, fun heq => absurd (heq ▸ c.toNat_lt) h⟩

theorem wordSum?_eq_some_iff : wordSum? a b = some c ↔ a.toNat + b.toNat = c.toNat := by
  rw [wordSum?]
  split_ifs with h
  · rw [Option.some_inj, ← UInt64.toNat_inj, UInt64.toNat_add, Nat.mod_eq_of_lt h]
  · exact ⟨nofun, fun heq => absurd (heq ▸ c.toNat_lt) h⟩

theorem exists_wordProduct? (h : a.toNat * b.toNat < 2 ^ 64) :
    ∃ c, wordProduct? a b = some c ∧ c.toNat = a.toNat * b.toNat := by
  have hc := UInt64.toNat_ofNat_of_lt' h
  exact ⟨_, wordProduct?_eq_some_iff.2 hc.symm, hc⟩

/-- A product and a sum after it, neither of which may overflow. -/
theorem productAndSum?_eq_some_iff {s k : UInt64} :
    (wordProduct? s k).bind (wordSum? · a) = some c ↔ s.toNat * k.toNat + a.toNat = c.toNat := by
  rw [Option.bind_eq_some_iff]
  constructor
  · rintro ⟨product, hproduct, hsum⟩
    rw [wordProduct?_eq_some_iff.1 hproduct, wordSum?_eq_some_iff.1 hsum]
  · intro h
    have hlt := c.toNat_lt
    obtain ⟨product, hproduct, hvalue⟩ := exists_wordProduct? (a := s) (b := k) (by omega)
    exact ⟨product, hproduct, wordSum?_eq_some_iff.2 (by rw [hvalue, h])⟩

theorem productAndSum?_eq_none_iff {s k : UInt64} :
    (wordProduct? s k).bind (wordSum? · a) = none ↔ 2 ^ 64 ≤ s.toNat * k.toNat + a.toNat := by
  rw [Option.eq_none_iff_forall_ne_some]
  constructor
  · intro hnone
    by_contra hlt
    have hvalue := UInt64.toNat_ofNat_of_lt' (Nat.not_le.1 hlt)
    exact hnone _ (productAndSum?_eq_some_iff.2 hvalue.symm)
  · intro hle c hc
    have hvalue := productAndSum?_eq_some_iff.1 hc
    have hlt := c.toNat_lt
    omega

end

/-! ## Spans in two words -/

namespace Parts

variable (p q : Parts)

theorem nanos_span : p.span.nanos = p.secs.toNat * 1000000000 + p.nanos.toNat := rfl

theorem nanos_span_le : p.span.nanos ≤ longestSpan := by
  have hsecs := p.secs.toNat_lt
  have hnanos := p.nanos_lt
  simp only [nanos_span, longestSpan, nanosPerSecond, UInt64.size] at *
  omega

theorem span_longest : longest.span = Duration.longest := rfl

/-- Every span up to the longest has its two words. -/
theorem exists_span {d : Duration} (h : d ≤ Duration.longest) : ∃ p : Parts, p.span = d := by
  have hnanos : d.nanos ≤ longestSpan := h
  have hsecs : d.seconds < UInt64.size := by
    simp only [Duration.seconds, longestSpan, nanosPerSecond, UInt64.size] at *
    omega
  have hsub : d.subsecond < nanosPerSecond := Nat.mod_lt _ (by decide)
  have hword : (UInt32.ofNat d.subsecond).toNat = d.subsecond :=
    UInt32.toNat_ofNat_of_lt' (Nat.lt_trans hsub (by decide))
  refine ⟨⟨UInt64.ofNat d.seconds, UInt32.ofNat d.subsecond, hword.symm ▸ hsub⟩, ?_⟩
  refine congrArg Duration.mk ?_
  rw [UInt64.toNat_ofNat_of_lt' hsecs, hword]
  exact Nat.div_add_mod' d.nanos nanosPerSecond

theorem span_shorter : (p.shorter q).span = p.span.shorter q.span := by
  have hp : p.nanos.toNat < 1000000000 := p.nanos_lt
  have hq : q.nanos.toNat < 1000000000 := q.nanos_lt
  have hmin : (p.shorter q).span.nanos = min p.span.nanos q.span.nanos := by
    rw [shorter]
    simp only [UInt64.lt_iff_toNat_lt, ← UInt64.toNat_inj, UInt32.le_iff_toNat_le]
    split_ifs with hle
    · simp only [nanos_span]
      omega
    · simp only [nanos_span]
      omega
  exact congrArg Duration.mk hmin

/-- The nanoseconds of a product have a word, whatever the factor. -/
theorem exists_nanos (k : UInt32) : ∃ total, wordProduct? p.nanos.toUInt64 k.toUInt64 = some total ∧
    total.toNat = p.nanos.toNat * k.toNat := by
  have hnanos : p.nanos.toNat < 1000000000 := p.nanos_lt
  refine exists_wordProduct? (Nat.lt_of_le_of_lt ?_ (by decide : 1000000000 * 2 ^ 32 < 2 ^ 64))
  exact Nat.mul_le_mul (Nat.le_of_lt hnanos) (Nat.le_of_lt k.toNat_lt)

theorem ofWords?_of_lt {secs : UInt64} {nanos : UInt32} (h : nanos.toNat < nanosPerSecond) :
    ofWords? secs nanos = some ⟨secs, nanos, h⟩ := by
  rw [ofWords?, dif_pos h]

/-- The machine does not stop, and finds the span taken `k` times. -/
theorem span_times? (k : UInt32) : ∃ r, p.times? k = some r ∧ r.span = p.span.times k.toNat := by
  obtain ⟨total, htotal, hvalue⟩ := p.exists_nanos k
  have hproduct : p.span.nanos * k.toNat =
      p.secs.toNat * k.toNat * 1000000000 + total.toNat := by
    rw [nanos_span, hvalue]
    ring
  have hcarry : (total / 1000000000).toNat = total.toNat / 1000000000 := UInt64.toNat_div _ _
  have hrest : (total % 1000000000).toUInt32.toNat = total.toNat % 1000000000 := by
    rw [UInt64.toNat_toUInt32, UInt64.toNat_mod]
    exact Nat.mod_eq_of_lt (Nat.lt_trans (Nat.mod_lt _ (by decide)) (by decide))
  have hlong : longestSpan = 18446744073709551615 * 1000000000 + 999999999 := rfl
  rw [times?, htotal, Option.bind_some]
  cases hsecs : (wordProduct? p.secs k.toUInt64).bind (wordSum? · (total / 1000000000)) with
  | some secs =>
    have hlt : (total % 1000000000).toUInt32.toNat < nanosPerSecond :=
      hrest ▸ Nat.mod_lt _ (by decide)
    have hsum := productAndSum?_eq_some_iff.1 hsecs
    rw [hcarry, UInt32.toNat_toUInt64] at hsum
    have hspan : (Parts.mk secs _ hlt).span.nanos = p.span.nanos * k.toNat := by
      show secs.toNat * 1000000000 + (total % 1000000000).toUInt32.toNat = _
      rw [hrest, hproduct]
      omega
    have hle : p.span.nanos * k.toNat ≤ longestSpan := hspan ▸ nanos_span_le _
    exact ⟨_, ofWords?_of_lt hlt, congrArg Duration.mk (hspan.trans (Nat.min_eq_left hle).symm)⟩
  | none =>
    have hover := productAndSum?_eq_none_iff.1 hsecs
    rw [hcarry, UInt32.toNat_toUInt64] at hover
    refine ⟨longest, rfl, span_longest.trans (congrArg Duration.mk (Nat.min_eq_right ?_).symm)⟩
    rw [hproduct, hlong]
    omega

end Parts

/-! ## The factor -/

theorem backoffFactor_of_lt {n : Nat} (h : n - 1 < 32) : backoffFactor n = 2 ^ (n - 1) := by
  rw [backoffFactor, if_pos h, Nat.one_shiftLeft]

theorem backoffFactor_of_le {n : Nat} (h : 32 ≤ n - 1) : backoffFactor n = 2 ^ 32 - 1 := by
  rw [backoffFactor, if_neg (Nat.not_lt.2 h)]
  rfl

/-- The factor grows, also where it stops being a power of two. -/
theorem backoffFactor_le_backoffFactor {m n : Nat} (h : m ≤ n) :
    backoffFactor m ≤ backoffFactor n := by
  rcases Nat.lt_or_ge (n - 1) 32 with hn | hn
  · rw [backoffFactor_of_lt hn, backoffFactor_of_lt (by omega)]
    exact Nat.pow_le_pow_right (by decide) (by omega)
  · rw [backoffFactor_of_le hn]
    rcases Nat.lt_or_ge (m - 1) 32 with hm | hm
    · rw [backoffFactor_of_lt hm]
      exact (Nat.pow_le_pow_right (by decide) (by omega)).trans (by decide : 2 ^ 31 ≤ 2 ^ 32 - 1)
    · exact (backoffFactor_of_le hm).le

theorem toNat_shifted (d : UInt32) :
    (if d < 32 then (1 : UInt32) <<< d else 4294967295).toNat =
      if d.toNat < 32 then 1 <<< d.toNat else UInt32.size - 1 := by
  have hlt : d < 32 ↔ d.toNat < 32 := UInt32.lt_iff_toNat_lt
  simp only [hlt]
  split_ifs with h
  · rw [UInt32.toNat_shiftLeft, Nat.mod_eq_of_lt h, UInt32.toNat_one, Nat.one_shiftLeft]
    exact Nat.mod_eq_of_lt (Nat.pow_lt_pow_right (by decide) h)
  · rfl

theorem toNat_backoffWord (failures : UInt32) :
    (backoffWord failures).toNat = backoffFactor failures.toNat := by
  have hdoublings : (if failures = 0 then 0 else failures - 1).toNat = failures.toNat - 1 := by
    split_ifs with hzero
    · rw [hzero]
      rfl
    · refine UInt32.toNat_sub_of_le _ _ ?_
      rw [UInt32.le_iff_toNat_le]
      exact Nat.one_le_iff_ne_zero.2 fun h => hzero (UInt32.toNat_inj.1 h)
  rw [backoffFactor, ← hdoublings]
  exact toNat_shifted _

/-! ## The wait -/

section

variable {failures later : Nat} {initial longest longer further : Duration}

theorem backoff_le_longest : backoff failures initial longest ≤ longest := Nat.min_le_right _ _

/-- The wait grows with the failures, with the first wait and with the longest. -/
theorem backoff_le_backoff (hlater : failures ≤ later) (hlonger : initial ≤ longer)
    (hfurther : longest ≤ further) :
    backoff failures initial longest ≤ backoff later longer further := by
  have hproduct : initial.nanos * backoffFactor failures ≤ longer.nanos * backoffFactor later :=
    Nat.mul_le_mul hlonger (backoffFactor_le_backoffFactor hlater)
  have hlongest : longest.nanos ≤ further.nanos := hfurther
  exact min_le_min (min_le_min_right longestSpan hproduct) hlongest

/-- The wait doubles with each failure, if the longest wait is reached before the factor ends. -/
theorem backoff_eq_min (hspan : longest ≤ .longest)
    (hreached : longest.nanos ≤ (2 ^ 32 - 1) * initial.nanos) :
    (backoff failures initial longest).nanos =
      min (initial.nanos * 2 ^ (max failures 1 - 1)) longest.nanos := by
  have hdoublings : max failures 1 - 1 = failures - 1 := by omega
  have hcut : ∀ n, min (min n longestSpan) longest.nanos = min n longest.nanos := fun n => by
    rw [min_assoc, min_eq_right (show longest.nanos ≤ longestSpan from hspan)]
  show min (min (initial.nanos * backoffFactor failures) longestSpan) longest.nanos = _
  rw [hcut, hdoublings]
  rcases Nat.lt_or_ge (failures - 1) 32 with hlt | hge
  · rw [backoffFactor_of_lt hlt]
  · have hpow : 2 ^ 32 - 1 ≤ 2 ^ (failures - 1) :=
      (Nat.sub_le _ _).trans (Nat.pow_le_pow_right (by decide) hge)
    rw [Nat.mul_comm] at hreached
    rw [backoffFactor_of_le hge, min_eq_right hreached,
      min_eq_right (hreached.trans (Nat.mul_le_mul_left _ hpow))]

end

/-- The machine finds the wait. -/
theorem span_backoffParts? (failures : UInt32) (initial longest : Parts) :
    ∃ wait, backoffParts? failures initial longest = some wait ∧
      wait.span = backoff failures.toNat initial.span longest.span := by
  obtain ⟨product, hproduct, hspan⟩ := initial.span_times? (backoffWord failures)
  refine ⟨product.shorter longest, by rw [backoffParts?, hproduct, Option.map_some], ?_⟩
  rw [Parts.span_shorter, hspan, toNat_backoffWord, backoff]

/-- **Main theorem.** For any number of failures of 32 bits, and any first and longest wait, a machine does
not stop, and finds the wait. It is at most the longest, and does not get less if there are more failures,
or a longer first or longest wait. If 2^32 - 1 times the first wait reaches the longest one, the wait is
exactly the first one doubled with each failure but the first, or the longest wait if that is less. -/
theorem backoff_course (failures : UInt32) (initial longest : Parts) :
    ∃ wait, backoffParts? failures initial longest = some wait ∧
      wait.span = backoff failures.toNat initial.span longest.span ∧
      wait.span ≤ longest.span ∧
      (∀ later longer further, failures ≤ later → initial.span ≤ longer.span →
        longest.span ≤ further.span →
        ∃ wait', backoffParts? later longer further = some wait' ∧ wait.span ≤ wait'.span) ∧
      (longest.span.nanos ≤ (2 ^ 32 - 1) * initial.span.nanos →
        wait.span.nanos =
          min (initial.span.nanos * 2 ^ (max failures.toNat 1 - 1)) longest.span.nanos) := by
  obtain ⟨wait, hwait, hspan⟩ := span_backoffParts? failures initial longest
  refine ⟨wait, hwait, hspan, ?_, fun later longer further hlater hlonger hfurther => ?_,
    fun hreached => ?_⟩
  · rw [hspan]
    exact backoff_le_longest
  · obtain ⟨wait', hwait', hspan'⟩ := span_backoffParts? later longer further
    refine ⟨wait', hwait', ?_⟩
    rw [hspan, hspan']
    exact backoff_le_backoff (UInt32.le_iff_toNat_le.1 hlater) hlonger hfurther
  · rw [hspan]
    exact backoff_eq_min longest.nanos_span_le hreached

/-- The carry of the nanoseconds makes the longest number of seconds. -/
example :
    backoffParts? 2 ⟨9223372036854775807, 999999999, by decide⟩ .longest =
      some ⟨18446744073709551615, 999999998, by decide⟩ := by
  decide

end DebugBridge
