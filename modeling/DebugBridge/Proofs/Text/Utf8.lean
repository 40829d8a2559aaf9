import DebugBridge.Text.Utf8

/-!
# Bytes read as text

The bytes of a character take the machine from rest to rest, and it gives out that character and
nothing else. The cases are the four lengths of a character; in each the ranges of the second byte are
those that the first byte leaves open.

A character of more than one byte is none of the first 64, so bytes without a line feed give none,
whatever else they are.

Results:
* `lossy_ofString`, `text?_ofString`, the bytes of a text read as that text;
* `newline_not_mem_lossy`, bytes without a line feed read as a text without one.
-/

namespace DebugBridge.Utf8

/-! ## Bytes that continue a character -/

theorem step_continue {p : Partial} {n : Nat} (hn : n < 0x40) (hlow : p.low.toNat ≤ n + 0x80)
    (hhigh : n + 0x80 ≤ p.high.toNat) :
    step (some p) (UInt8.ofNat (n + 0x80)) =
      if p.need = 1 then (none, [.char (Char.ofNat (p.value * 64 + n))])
      else (some ⟨p.seen + 1, p.need - 1, 0x80, 0xBF, p.value * 64 + n⟩, []) := by
  have hb : (UInt8.ofNat (n + 0x80)).toNat = n + 0x80 := by
    rw [UInt8.toNat_ofNat']; omega
  have hrange : p.low ≤ UInt8.ofNat (n + 0x80) ∧ UInt8.ofNat (n + 0x80) ≤ p.high := by
    rw [UInt8.le_iff_toNat_le, UInt8.le_iff_toNat_le, hb]
    exact ⟨hlow, hhigh⟩
  rw [step, if_pos hrange, hb, Nat.add_sub_cancel]

/-- A byte in range that is not the last. -/
theorem scan_middle {seen need n value : Nat} {low high : UInt8} (done : List Token) (bs : Bytes)
    (hn : n < 0x40) (hlow : low.toNat ≤ n + 0x80) (hhigh : n + 0x80 ≤ high.toNat) :
    scan (some ⟨seen, need + 2, low, high, value⟩) done (UInt8.ofNat (n + 0x80) :: bs) =
      scan (some ⟨seen + 1, need + 1, 0x80, 0xBF, value * 64 + n⟩) done bs := by
  rw [scan, step_continue hn hlow hhigh]
  rfl

/-- The last byte of a character. -/
theorem scan_last {seen n value : Nat} {low high : UInt8} (done : List Token) (bs : Bytes)
    (hn : n < 0x40) (hlow : low.toNat ≤ n + 0x80) (hhigh : n + 0x80 ≤ high.toNat) :
    scan (some ⟨seen, 1, low, high, value⟩) done (UInt8.ofNat (n + 0x80) :: bs) =
      scan none (.char (Char.ofNat (value * 64 + n)) :: done) bs := by
  rw [scan, step_continue hn hlow hhigh]
  rfl

/-! ## Bytes that begin a character -/

theorem scan_single {n : Nat} (done : List Token) (bs : Bytes) (hn : n ≤ 0x7F) :
    scan none done (UInt8.ofNat n :: bs) = scan none (.char (Char.ofNat n) :: done) bs := by
  have hb : (UInt8.ofNat n).toNat = n := by
    rw [UInt8.toNat_ofNat']; omega
  have hlt : UInt8.ofNat n < 0x80 := by
    rw [UInt8.lt_iff_toNat_lt, hb]
    exact Nat.lt_succ_of_le hn
  rw [scan, step, start, if_pos hlt, hb]
  rfl

theorem scan_lead {b : UInt8} {p : Partial} (done : List Token) (bs : Bytes)
    (h : Partial.ofLead? b = some p) (hb : 0x80 ≤ b.toNat) :
    scan none done (b :: bs) = scan (some p) done bs := by
  have hge : ¬ b < 0x80 := by
    rw [UInt8.lt_iff_toNat_lt]
    exact Nat.not_lt.2 hb
  rw [scan, step, start, if_neg hge, h]
  rfl

theorem ofLead?_two : ∀ n < 0x20, 2 ≤ n → 0x80 ≤ (UInt8.ofNat (n + 0xC0)).toNat ∧
    Partial.ofLead? (UInt8.ofNat (n + 0xC0)) = some ⟨1, 1, 0x80, 0xBF, n⟩ := by
  decide

theorem ofLead?_three : ∀ n < 0x10, 0x80 ≤ (UInt8.ofNat (n + 0xE0)).toNat ∧
    Partial.ofLead? (UInt8.ofNat (n + 0xE0)) =
      some ⟨1, 2, if n = 0 then 0xA0 else 0x80, if n = 0xD then 0x9F else 0xBF, n⟩ := by
  decide

theorem ofLead?_four : ∀ n < 5, 0x80 ≤ (UInt8.ofNat (n + 0xF0)).toNat ∧
    Partial.ofLead? (UInt8.ofNat (n + 0xF0)) =
      some ⟨1, 3, if n = 0 then 0x90 else 0x80, if n = 4 then 0x8F else 0xBF, n⟩ := by
  decide

/-! ## Characters and texts -/

/-- A character is read from its bytes. -/
theorem scan_utf8EncodeChar (c : Char) (done : List Token) (rest : Bytes) :
    scan none done (String.utf8EncodeChar c ++ rest) = scan none (.char c :: done) rest := by
  have hvalid : c.val.toNat < 0xD800 ∨ 0xDFFF < c.val.toNat ∧ c.val.toNat < 0x110000 := c.valid
  have hchar : Char.ofNat c.val.toNat = c := Char.ofNat_toNat c
  rw [String.utf8EncodeChar]
  generalize c.val.toNat = v at hvalid hchar ⊢
  by_cases h1 : v ≤ 0x7F
  · rw [if_pos h1, List.cons_append, scan_single done _ h1, hchar, List.nil_append]
  by_cases h2 : v ≤ 0x7FF
  · obtain ⟨hhead, hlead⟩ := ofLead?_two (v / 64 % 0x20) (by omega) (by omega)
    have hv : v / 64 % 0x20 * 64 + v % 0x40 = v := by omega
    rw [if_neg h1, if_pos h2]
    simp only [List.cons_append, List.nil_append]
    rw [scan_lead done _ hlead hhead, scan_last done _ (by omega)
      (by show 0x80 ≤ _; omega) (by show _ ≤ 0xBF; omega), hv, hchar]
  by_cases h3 : v ≤ 0xFFFF
  · obtain ⟨hhead, hlead⟩ := ofLead?_three (v / 4096 % 0x10) (by omega)
    have hv : (v / 4096 % 0x10 * 64 + v / 64 % 0x40) * 64 + v % 0x40 = v := by omega
    have hlow : (if v / 4096 % 0x10 = 0 then 0xA0 else 0x80 : UInt8).toNat ≤
        v / 64 % 0x40 + 0x80 := by
      split
      · show 0xA0 ≤ _; omega
      · show 0x80 ≤ _; omega
    have hhigh : v / 64 % 0x40 + 0x80 ≤
        (if v / 4096 % 0x10 = 0xD then 0x9F else 0xBF : UInt8).toNat := by
      split
      · show _ ≤ 0x9F; omega
      · show _ ≤ 0xBF; omega
    rw [if_neg h1, if_neg h2, if_pos h3]
    simp only [List.cons_append, List.nil_append]
    rw [scan_lead done _ hlead hhead, scan_middle done _ (by omega) hlow hhigh,
      scan_last done _ (by omega) (by show 0x80 ≤ _; omega) (by show _ ≤ 0xBF; omega), hv, hchar]
  · obtain ⟨hhead, hlead⟩ := ofLead?_four (v / 262144 % 0x08) (by omega)
    have hv : ((v / 262144 % 0x08 * 64 + v / 4096 % 0x40) * 64 + v / 64 % 0x40) * 64 + v % 0x40 =
        v := by
      omega
    have hlow : (if v / 262144 % 0x08 = 0 then 0x90 else 0x80 : UInt8).toNat ≤
        v / 4096 % 0x40 + 0x80 := by
      split
      · show 0x90 ≤ _; omega
      · show 0x80 ≤ _; omega
    have hhigh : v / 4096 % 0x40 + 0x80 ≤
        (if v / 262144 % 0x08 = 4 then 0x8F else 0xBF : UInt8).toNat := by
      split
      · show _ ≤ 0x8F; omega
      · show _ ≤ 0xBF; omega
    rw [if_neg h1, if_neg h2, if_neg h3]
    simp only [List.cons_append, List.nil_append]
    rw [scan_lead done _ hlead hhead, scan_middle done _ (by omega) hlow hhigh,
      scan_middle done _ (by omega) (by show 0x80 ≤ _; omega) (by show _ ≤ 0xBF; omega),
      scan_last done _ (by omega) (by show 0x80 ≤ _; omega) (by show _ ≤ 0xBF; omega), hv, hchar]

theorem scan_flatMap_utf8EncodeChar (cs : List Char) (done : List Token) :
    scan none done (cs.flatMap String.utf8EncodeChar) =
      (none, (cs.map Token.char).reverse ++ done) := by
  induction cs generalizing done with
  | nil => rfl
  | cons c cs ih =>
    rw [List.flatMap_cons, scan_utf8EncodeChar, ih]
    simp

/-- **Round trip.** The bytes of a text are read as that text. -/
theorem lossy_ofString (s : String) : lossy (Bytes.ofString s) = s := by
  rw [lossy, tokens, Bytes.ofString_eq_flatMap, scan_flatMap_utf8EncodeChar]
  simp [Function.comp_def, Token.shown]

theorem firstDefect_map_char (cs : List Char) (before : Nat) :
    firstDefect before (cs.map Token.char) none = none := by
  induction cs generalizing before with
  | nil => rfl
  | cons c cs ih =>
    rw [List.map_cons, firstDefect]
    exact ih _

/-- The bytes of a text have no fault. -/
theorem text?_ofString (s : String) : text? (Bytes.ofString s) = .ok s := by
  have hdefect : defect? (Bytes.ofString s) = none := by
    rw [defect?, tokens, Bytes.ofString_eq_flatMap, scan_flatMap_utf8EncodeChar]
    simp only [List.append_nil, List.reverse_reverse]
    exact firstDefect_map_char _ 0
  rw [text?, hdefect]
  exact congrArg Except.ok (lossy_ofString s)

/-! ## Line feeds -/

/-- A character that has been begun is beyond the first 64, or its next byte takes it there. -/
def Partial.Beyond (p : Partial) : Prop := 1 ≤ p.value ∨ 2 ≤ p.need ∧ 0x80 < p.low

theorem Partial.beyond_of_ofLead? {b : UInt8} {p : Partial} (h : Partial.ofLead? b = some p) :
    p.Beyond := by
  unfold Partial.ofLead? at h
  simp only [UInt8.le_iff_toNat_le, UInt8.toNat_ofNat] at h
  repeat' split at h
  all_goals cases h
  all_goals
    first
    | exact .inr ⟨by decide, by decide⟩
    | exact .inl (by first | decide | (dsimp only; omega))

theorem ofNat_ne_newline {n : Nat} (h : n ≠ 10) : Char.ofNat n ≠ '\n' := by
  intro heq
  by_cases hvalid : n.isValidChar
  · rw [Char.ofNat, dif_pos hvalid] at heq
    exact h (congrArg Char.toNat heq)
  · rw [Char.ofNat, dif_neg hvalid] at heq
    exact absurd heq (by decide)

theorem start_ne_newline {b : UInt8} (h : b ≠ 10) :
    (∀ p, (start b).1 = some p → p.Beyond) ∧ ∀ t ∈ (start b).2, t.shown ≠ '\n' := by
  have hnat : b.toNat ≠ 10 := fun heq => h (UInt8.toNat_inj.1 heq)
  unfold start
  split
  · refine ⟨by simp, ?_⟩
    simpa [Token.shown] using ofNat_ne_newline hnat
  · split
    · rename_i p hp
      exact ⟨fun p' hp' => Option.some.inj hp' ▸ Partial.beyond_of_ofLead? hp, by simp⟩
    · exact ⟨by simp, by simp [Token.shown, replacement]⟩

/-- A byte that is no line feed gives none. -/
theorem step_ne_newline {s : State} {b : UInt8} (hs : ∀ p, s = some p → p.Beyond) (h : b ≠ 10) :
    (∀ p, (step s b).1 = some p → p.Beyond) ∧ ∀ t ∈ (step s b).2, t.shown ≠ '\n' := by
  cases s with
  | none => exact start_ne_newline h
  | some p =>
    have hp := hs p rfl
    by_cases hrange : p.low ≤ b ∧ b ≤ p.high
    · rw [step, if_pos hrange]
      have hbeyond : 1 ≤ p.value * 64 + (b.toNat - 0x80) ∧
          (p.need = 1 → 64 ≤ p.value * 64 + (b.toNat - 0x80)) := by
        obtain ⟨hlow, -⟩ := hrange
        rw [UInt8.le_iff_toNat_le] at hlow
        rcases hp with hvalue | ⟨hneed, hsecond⟩
        · omega
        · have : 0x80 < p.low.toNat := UInt8.lt_iff_toNat_lt.1 hsecond
          omega
      by_cases hlast : p.need = 1
      · have hchar := hbeyond.2 hlast
        dsimp only
        rw [if_pos hlast]
        exact ⟨by simp, by simpa [Token.shown] using ofNat_ne_newline (by omega)⟩
      · dsimp only
        rw [if_neg hlast]
        exact ⟨fun p' hp' => Option.some.inj hp' ▸ .inl hbeyond.1, by simp⟩
    · rw [step, if_neg hrange]
      obtain ⟨hstart, hshown⟩ := start_ne_newline h
      exact ⟨hstart, by simpa [Token.shown, replacement] using hshown⟩

/-- By induction on the bytes: what has been begun is beyond the first 64, and no line feed has been
given. -/
theorem scan_ne_newline {s : State} {done : List Token} {b : Bytes}
    (hs : ∀ p, s = some p → p.Beyond) (hdone : ∀ t ∈ done, t.shown ≠ '\n') (h : 10 ∉ b) :
    ∀ t ∈ (scan s done b).2, t.shown ≠ '\n' := by
  induction b generalizing s done with
  | nil => exact hdone
  | cons x b ih =>
    obtain ⟨hx, hb⟩ := not_or.1 (mt List.mem_cons.2 h)
    obtain ⟨hstep, hshown⟩ := step_ne_newline hs (Ne.symm hx)
    refine ih hstep (fun t ht => ?_) hb
    rcases List.mem_append.1 ht with ht | ht
    · exact hshown t (List.mem_reverse.1 ht)
    · exact hdone t ht

/-- Bytes without a line feed read as a text without one. -/
theorem newline_not_mem_lossy {b : Bytes} (h : 10 ∉ b) : '\n' ∉ (lossy b).toList := by
  have htokens := @scan_ne_newline none [] b (by simp) (by simp) h
  unfold lossy tokens
  rw [String.toList_ofList, List.mem_append, not_or]
  refine ⟨fun hmem => ?_, ?_⟩
  · obtain ⟨t, ht, hnewline⟩ := List.mem_map.1 hmem
    exact htokens t (List.mem_reverse.1 ht) hnewline
  · split <;> simp [replacement]

end DebugBridge.Utf8
