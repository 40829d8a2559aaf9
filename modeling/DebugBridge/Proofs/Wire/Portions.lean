import DebugBridge.Proofs.Wire.Framing

/-!
# What a read asks for at once

A read comes by the bytes of a stream by asking for so many at once, one time after the other, each time
for a number that is settled before these bytes are there (`Read.Asks`). The numbers are determined by
what the read does, those that are zero apart: a read that asks for more than there is fails with the
number that it has asked for.

Results: `Read.Asks.unique`, `Read.asks_bind`.
-/

namespace DebugBridge.Read

variable {α : Type} {r : Read α} {s : Stream} {sizes sizes' : List Nat}

/-- How a read asks for the bytes of a stream. -/
inductive Asks : Read α → Stream → List Nat → Prop
  /-- The result is settled: it is the same on every stream, and no byte is taken. -/
  | nothing {r : Read α} {x : Except Stall α} (h : ∀ s, r.run s = (x, s)) (s : Stream) : Asks r s []
  /-- The bytes that are asked for are not all there. -/
  | short {r : Read α} {n : Nat} {f : Bytes → Read α} {s : Stream} (hr : r = exactly n >>= f)
    (h : s.bytes.length < n) : Asks r s [n]
  | portion {r : Read α} {n : Nat} {f : Bytes → Read α} {s s' : Stream} {b : Bytes}
    {sizes : List Nat} (hr : r = exactly n >>= f) (h : (exactly n).run s = (.ok b, s'))
    (hrest : Asks (f b) s' sizes) : Asks r s (n :: sizes)

/-- A read that asks for some bytes first, by how it can go on with them. -/
theorem asks_bind {n : Nat} {f : Bytes → Read α} (p : Nat → Prop) (hn : p n)
    (hrest : ∀ b s', (exactly n).run s = (.ok b, s') →
      ∃ sizes, Asks (f b) s' sizes ∧ ∀ m ∈ sizes, p m) :
    ∃ sizes, Asks (exactly n >>= f) s sizes ∧ ∀ m ∈ sizes, p m := by
  by_cases hshort : s.bytes.length < n
  · exact ⟨[n], .short rfl hshort, List.forall_mem_singleton.2 hn⟩
  · obtain ⟨b, rest, -, -, s', hrun, -⟩ := gives_exactly (Nat.not_lt.1 hshort)
    obtain ⟨sizes, hasks, hsizes⟩ := hrest b s' hrun
    exact ⟨n :: sizes, .portion rfl hrun hasks, List.forall_mem_cons.2 ⟨hn, hsizes⟩⟩

/-! ## The numbers are determined -/

theorem exactly_append (b : Bytes) (t : Stream) :
    (exactly b.length).run ⟨b ++ t.ready, t.later, t.ending⟩ = (.ok b, t) := by
  have htake : Stream.takeExact b.length (b ++ t.ready) t.later = some (b, t.ready, t.later) := by
    cases t.later <;> simp [Stream.takeExact]
  have htake? : (Stream.mk (b ++ t.ready) t.later t.ending).take? b.length = some (b, t) := by
    rw [Stream.take?, htake]
    rfl
  exact exactly_of_take? htake?

theorem exactly_zero (s : Stream) : (exactly 0).run s = (.ok [], s) := exactly_append [] s

theorem exactly_zero_bind (f : Bytes → Read α) : exactly 0 >>= f = f [] := by
  funext s
  exact run_bind_ok (exactly_zero s) f

/-- A read that asks for bytes first, with nothing there and nothing to come. -/
theorem bind_run_nothing {n : Nat} (hn : 0 < n) (f : Bytes → Read α) (ending : Ending) :
    ((exactly n >>= f).run (.ofBytes [] ending)).1 = .error (ending.shortfall n) := by
  have hshort : (Stream.ofBytes [] ending).bytes.length < n := hn
  rw [run_bind, exactly_of_lt hshort]
  rfl

/-- What a read asks for first, and how it goes on, is determined by what it does. -/
theorem bind_inj {n n' : Nat} {f f' : Bytes → Read α} (hn : 0 < n) (hn' : 0 < n')
    (h : exactly n >>= f = exactly n' >>= f') : n = n' ∧ ∀ b, b.length = n → f b = f' b := by
  have hsame : n = n' := by
    have hrun := bind_run_nothing hn f .closed
    rw [h, bind_run_nothing hn' f' .closed] at hrun
    simp only [Ending.shortfall, Except.error.injEq, Stall.failed.injEq, Error.protocol.injEq,
      String.append_left_inj, String.append_right_inj] at hrun
    have hdigits : Text.decimal? (toString n').toList = Text.decimal? (toString n).toList :=
      congrArg (fun t : String => Text.decimal? t.toList) hrun
    rw [Text.decimal?_toString, Text.decimal?_toString] at hdigits
    exact (Option.some.inj hdigits).symm
  subst hsame
  refine ⟨rfl, fun b hb => ?_⟩
  subst hb
  funext t
  have hrun (f : Bytes → Read α) := run_bind_ok (exactly_append b t) f
  exact (hrun f).symm.trans ((congrArg (·.run ⟨b ++ t.ready, t.later, t.ending⟩) h).trans (hrun f'))

/-- A read whose result is settled does not ask for bytes first. -/
theorem not_settled_of_bind {n : Nat} (hn : 0 < n) (f : Bytes → Read α) (x : Except Stall α) :
    ¬ ∀ s, (exactly n >>= f).run s = (x, s) := by
  intro h
  have hclosed := bind_run_nothing hn f .closed
  have hsilent := bind_run_nothing hn f .silent
  rw [h] at hclosed hsilent
  cases hclosed.symm.trans hsilent

/-- To ask for no bytes is to ask for nothing. -/
theorem Asks.positive (h : Asks r s sizes) : Asks r s (sizes.filter (0 < ·)) := by
  induction h with
  | nothing h s => exact .nothing h s
  | short hr h =>
    rw [List.filter_cons_of_pos (by simpa using Nat.zero_lt_of_lt h)]
    exact .short hr h
  | @portion r n f s s' b sizes hr h hrest ih =>
    by_cases hn : 0 < n
    · rw [List.filter_cons_of_pos (by simpa using hn)]
      exact .portion hr h ih
    · obtain rfl := Nat.eq_zero_of_not_pos hn
      rw [exactly_zero] at h
      cases h
      rw [exactly_zero_bind] at hr
      rw [List.filter_cons_of_neg (by simp), hr]
      exact ih

theorem Asks.eq_nil_of_settled (h : Asks r s sizes) (hpos : ∀ n ∈ sizes, 0 < n)
    {x : Except Stall α} (hx : ∀ s, r.run s = (x, s)) : sizes = [] := by
  cases h with
  | nothing => rfl
  | short hr h =>
    subst hr
    exact absurd hx (not_settled_of_bind (Nat.zero_lt_of_lt h) _ _)
  | portion hr =>
    subst hr
    exact absurd hx (not_settled_of_bind (hpos _ List.mem_cons_self) _ _)

theorem Asks.eq_of_pos (h : Asks r s sizes) (h' : Asks r s sizes') (hpos : ∀ n ∈ sizes, 0 < n)
    (hpos' : ∀ n ∈ sizes', 0 < n) : sizes = sizes' := by
  induction h generalizing sizes' with
  | nothing hx s => exact (h'.eq_nil_of_settled hpos' hx).symm
  | short hr hshort =>
    cases h' with
    | nothing hx => exact (Asks.short hr hshort).eq_nil_of_settled hpos hx
    | short hr' hshort' =>
      rw [(bind_inj (Nat.zero_lt_of_lt hshort) (Nat.zero_lt_of_lt hshort') (hr.symm.trans hr')).1]
    | portion hr' hrun' =>
      obtain ⟨rfl, -⟩ := bind_inj (Nat.zero_lt_of_lt hshort) (hpos' _ List.mem_cons_self)
        (hr.symm.trans hr')
      rw [exactly_of_lt hshort] at hrun'
      cases hrun'
  | portion hr hrun hrest ih =>
    have hn := hpos _ List.mem_cons_self
    cases h' with
    | nothing hx => exact (Asks.portion hr hrun hrest).eq_nil_of_settled hpos hx
    | short hr' hshort' =>
      obtain ⟨rfl, -⟩ := bind_inj hn (Nat.zero_lt_of_lt hshort') (hr.symm.trans hr')
      rw [exactly_of_lt hshort'] at hrun
      cases hrun
    | portion hr' hrun' hrest' =>
      obtain ⟨rfl, hf⟩ := bind_inj hn (hpos' _ List.mem_cons_self) (hr.symm.trans hr')
      obtain ⟨hb, hs⟩ := Prod.mk.inj (hrun.symm.trans hrun')
      obtain rfl := Except.ok.inj hb
      subst hs
      rw [← hf _ (size_exactly hrun).1] at hrest'
      rw [ih hrest' (fun m hm => hpos m (List.mem_cons_of_mem _ hm))
        fun m hm => hpos' m (List.mem_cons_of_mem _ hm)]

/-- On a stream a read asks for these numbers of bytes and no others, those apart that are zero. -/
theorem Asks.unique (h : Asks r s sizes) (h' : Asks r s sizes') :
    sizes.filter (0 < ·) = sizes'.filter (0 < ·) := by
  have hpos (sizes : List Nat) : ∀ n ∈ sizes.filter (0 < ·), 0 < n := by
    intro n hn
    simpa using (List.mem_filter.1 hn).2
  exact h.positive.eq_of_pos h'.positive (hpos sizes) (hpos sizes')

end DebugBridge.Read
