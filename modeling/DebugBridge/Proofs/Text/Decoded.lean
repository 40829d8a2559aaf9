import DebugBridge.Proofs.Text.ByteOrder
import DebugBridge.Proofs.Text.Utf8

/-!
# Bytes without a fault are those of a text

A character that has been begun stands for the bytes that it was begun with (`Partial.begun`), and for
the code points that it can still become. The ranges of the bytes that may come next keep all of these
code points within the form that the first byte stands for, and away from the surrogates
(`Partial.Sound`). So whenever a character is complete, the bytes that were read are its own.

Result: `text?_eq_ok_iff`, a byte string reads as a text exactly if it is the bytes of that text.
-/

namespace DebugBridge.Utf8

open Bytes (digits mark least least_le_least exists_utf8EncodeChar_eq)

/-! ## Digits -/

theorem digits_succ (v k : Nat) :
    digits v (k + 1) = digits (v / 64) k ++ [UInt8.ofNat (v % 64 + 0x80)] := by
  induction k with
  | zero => simp [digits]
  | succ k ih =>
    have hfirst : v / 64 ^ (k + 1) = v / 64 / 64 ^ k := by
      rw [Nat.pow_succ', Nat.div_div_eq_div_mul]
    rw [digits, ih, digits, List.cons_append, hfirst]

/-- The bytes of a character of which the last is told apart from the others. -/
theorem utf8EncodeChar_ofNat {v k : Nat} (hvalid : v.isValidChar) (hleast : least k ≤ v)
    (hbound : v < least (k + 1)) (hk : k < 4) :
    String.utf8EncodeChar (Char.ofNat v) = UInt8.ofNat (v / 64 ^ k + mark k) :: digits v k := by
  have hval : (Char.ofNat v).val.toNat = v := by
    rw [Char.ofNat, dif_pos hvalid]
    rfl
  obtain ⟨m, hm, hleast', hbound', hbytes⟩ := exists_utf8EncodeChar_eq (Char.ofNat v)
  rw [hval] at hleast' hbound' hbytes
  obtain rfl : m = k := by
    rcases Nat.lt_trichotomy m k with hlt | heq | hgt
    · have : least (m + 1) ≤ least k := least_le_least hlt (by omega)
      omega
    · exact heq
    · have : least (k + 1) ≤ least m := least_le_least hgt (by omega)
      omega
  exact hbytes

/-! ## Characters that have been begun -/

namespace Partial

variable {p : Partial} {b : UInt8}

/-- The number of bytes after the first. -/
def more (p : Partial) : Nat := p.seen + p.need - 1

/-- The bytes that have been read of the character. -/
def begun (p : Partial) : Bytes :=
  UInt8.ofNat (p.value / 64 ^ (p.seen - 1) + mark p.more) :: digits p.value (p.seen - 1)

/-- The least code point that the character can become. -/
def lowest (p : Partial) : Nat := (p.value * 64 + (p.low.toNat - 0x80)) * 64 ^ (p.need - 1)

/-- All code points that the character can become are below this. -/
def bound (p : Partial) : Nat := (p.value * 64 + (p.high.toNat - 0x80) + 1) * 64 ^ (p.need - 1)

/-- Whatever the character becomes, it is one, and has the form that was begun. -/
structure Sound (p : Partial) : Prop where
  seen_pos : 1 ≤ p.seen
  need_pos : 1 ≤ p.need
  short : p.seen + p.need ≤ 4
  low : 0x80 ≤ p.low.toNat
  high : p.high.toNat ≤ 0xBF
  lowest : least p.more ≤ p.lowest
  bound : p.bound ≤ least (p.more + 1)
  valid : p.bound ≤ 0xD800 ∨ 0xE000 ≤ p.lowest

instance (p : Partial) : Decidable p.Sound :=
  decidable_of_iff (1 ≤ p.seen ∧ 1 ≤ p.need ∧ p.seen + p.need ≤ 4 ∧ 0x80 ≤ p.low.toNat ∧
      p.high.toNat ≤ 0xBF ∧ least p.more ≤ p.lowest ∧ p.bound ≤ least (p.more + 1) ∧
      (p.bound ≤ 0xD800 ∨ 0xE000 ≤ p.lowest))
    ⟨fun ⟨h₁, h₂, h₃, h₄, h₅, h₆, h₇, h₈⟩ => ⟨h₁, h₂, h₃, h₄, h₅, h₆, h₇, h₈⟩,
      fun ⟨h₁, h₂, h₃, h₄, h₅, h₆, h₇, h₈⟩ => ⟨h₁, h₂, h₃, h₄, h₅, h₆, h₇, h₈⟩⟩

/-- A first byte begins a character that is sound, with itself. -/
theorem sound_of_ofLead? (h : ofLead? b = some p) : p.Sound ∧ p.begun = [b] := by
  have hall : ∀ n < 256, ∀ p ∈ ofLead? (UInt8.ofNat n), p.Sound ∧ p.begun = [UInt8.ofNat n] := by
    decide +kernel
  have hb := hall b.toNat b.toNat_lt p
  rw [UInt8.ofNat_toNat] at hb
  exact hb h

/-- The code point after one more byte. -/
def extend (p : Partial) (b : UInt8) : Nat := p.value * 64 + (b.toNat - 0x80)

section

variable (hp : p.Sound) (hlow : p.low.toNat ≤ b.toNat) (hhigh : b.toNat ≤ p.high.toNat)

include hp hlow hhigh

theorem extend_div_mod : p.extend b / 64 = p.value ∧ p.extend b % 64 + 0x80 = b.toNat := by
  have := hp.low
  have := hp.high
  unfold extend
  omega

/-- The bytes that were read, and one more. -/
theorem begun_extend :
    UInt8.ofNat (p.extend b / 64 ^ p.seen + mark p.more) :: digits (p.extend b) p.seen =
      p.begun ++ [b] := by
  obtain ⟨hdiv, hmod⟩ := extend_div_mod hp hlow hhigh
  obtain ⟨n, hn⟩ := Nat.exists_eq_add_of_le' hp.seen_pos
  have hfirst : p.extend b / 64 ^ (n + 1) = p.value / 64 ^ n := by
    rw [Nat.pow_succ', ← Nat.div_div_eq_div_mul, hdiv]
  rw [begun, hn, hfirst, digits_succ, hdiv, hmod, UInt8.ofNat_toNat, Nat.add_sub_cancel,
    List.cons_append]

/-- The last byte completes the character whose bytes have been read. -/
theorem utf8EncodeChar_extend (hneed : p.need = 1) :
    String.utf8EncodeChar (Char.ofNat (p.extend b)) = p.begun ++ [b] := by
  have hbegun := begun_extend hp hlow hhigh
  obtain ⟨hpos, -, hshort, -, -, hlowest, hbound, hvalid⟩ := hp
  have hseen : p.seen = p.more := by
    rw [more, hneed]
    omega
  rw [Partial.lowest, hneed, Nat.sub_self, Nat.pow_zero, Nat.mul_one] at hlowest hvalid
  rw [Partial.bound, hneed, Nat.sub_self, Nat.pow_zero, Nat.mul_one] at hbound hvalid
  have hchar : (p.extend b).isValidChar := by
    have : least (p.more + 1) ≤ least 4 := least_le_least (by omega) (by omega)
    have : least 4 = 0x110000 := rfl
    unfold extend Nat.isValidChar
    omega
  rw [← hbegun, hseen]
  exact utf8EncodeChar_ofNat hchar (by unfold extend; omega) (by unfold extend; omega) (by omega)

/-- A byte that is not the last leads to a character that is sound. -/
theorem sound_extend (hneed : p.need ≠ 1) :
    Sound ⟨p.seen + 1, p.need - 1, 0x80, 0xBF, p.extend b⟩ ∧
      begun ⟨p.seen + 1, p.need - 1, 0x80, 0xBF, p.extend b⟩ = p.begun ++ [b] := by
  have hbegun := begun_extend hp hlow hhigh
  obtain ⟨hpos, hneed', hshort, hlow', hhigh', hlowest, hbound, hvalid⟩ := hp
  have hmore : more ⟨p.seen + 1, p.need - 1, 0x80, 0xBF, p.extend b⟩ = p.more := by
    simp only [more]
    omega
  have hle : p.lowest ≤ lowest ⟨p.seen + 1, p.need - 1, 0x80, 0xBF, p.extend b⟩ ∧
      bound ⟨p.seen + 1, p.need - 1, 0x80, 0xBF, p.extend b⟩ ≤ p.bound := by
    obtain hneed | hneed : p.need = 2 ∨ p.need = 3 := by omega
    all_goals
      unfold Partial.lowest Partial.bound extend
      simp only [hneed, UInt8.reduceToNat, Nat.reduceSub, Nat.reducePow]
      omega
  refine ⟨⟨?_, ?_, ?_, Nat.le_refl _, Nat.le_refl _, ?_, ?_, ?_⟩, ?_⟩
  · exact Nat.le_add_left 1 _
  · show 1 ≤ p.need - 1
    omega
  · show p.seen + 1 + (p.need - 1) ≤ 4
    omega
  · rw [hmore]
    omega
  · rw [hmore]
    omega
  · omega
  · rw [begun, hmore]
    exact hbegun

end

end Partial

/-! ## Bytes that are read without a fault -/

/-- The bytes that a token stands for; a fault stands for none. -/
def Token.bytes : Token → Bytes
  | .char c => String.utf8EncodeChar c
  | .fault _ => []

/-- Is the token a character? -/
def Token.IsChar (t : Token) : Prop := ∃ c, t = .char c

/-- The bytes of the character that has been begun, if one has been. -/
def held (s : State) : Bytes := (s.map Partial.begun).getD []

theorem start_of_chars {b : UInt8} (h : ∀ t ∈ (start b).2, t.IsChar) :
    (∀ p ∈ (start b).1, p.Sound) ∧ [b] = (start b).2.flatMap Token.bytes ++ held (start b).1 := by
  unfold start at h ⊢
  by_cases hascii : b < 0x80
  · have hlt : b.toNat < 0x80 := UInt8.lt_iff_toNat_lt.1 hascii
    have hbytes := utf8EncodeChar_ofNat (v := b.toNat) (k := 0) (.inl (by omega)) (Nat.zero_le _) hlt
      (by decide)
    rw [if_pos hascii]
    exact ⟨nofun, by simp [Token.bytes, held, hbytes, mark, digits]⟩
  · rw [if_neg hascii] at h ⊢
    cases hlead : Partial.ofLead? b with
    | none =>
      simp only [hlead] at h
      obtain ⟨c, hc⟩ := h _ List.mem_cons_self
      cases hc
    | some p =>
      obtain ⟨hsound, hbegun⟩ := Partial.sound_of_ofLead? hlead
      exact ⟨fun p' hp' => Option.some.inj hp' ▸ hsound, hbegun.symm⟩

/-- A byte that is read without a fault is the next of the bytes that the tokens stand for. -/
theorem step_of_chars {s : State} {b : UInt8} (hs : ∀ p ∈ s, p.Sound)
    (h : ∀ t ∈ (step s b).2, t.IsChar) :
    (∀ p ∈ (step s b).1, p.Sound) ∧
      held s ++ [b] = (step s b).2.flatMap Token.bytes ++ held (step s b).1 := by
  cases s with
  | none => exact start_of_chars h
  | some p =>
    have hp := hs p rfl
    by_cases hrange : p.low ≤ b ∧ b ≤ p.high
    · obtain ⟨hlow, hhigh⟩ := And.imp UInt8.le_iff_toNat_le.1 UInt8.le_iff_toNat_le.1 hrange
      rw [step, if_pos hrange]
      by_cases hneed : p.need = 1
      · have hbytes := Partial.utf8EncodeChar_extend hp hlow hhigh hneed
        simp only [if_pos hneed]
        refine ⟨fun p' hp' => absurd hp' (Option.not_mem_none p'), ?_⟩
        rw [List.flatMap_singleton]
        exact hbytes.symm.trans (List.append_nil _).symm
      · obtain ⟨hsound, hbegun⟩ := Partial.sound_extend hp hlow hhigh hneed
        simp only [if_neg hneed]
        exact ⟨fun p' hp' => Option.some.inj hp' ▸ hsound, hbegun.symm⟩
    · rw [step, if_neg hrange] at h
      obtain ⟨c, hc⟩ := h _ List.mem_cons_self
      cases hc

theorem mem_scan {s : State} {done : List Token} {t : Token} (b : Bytes) (h : t ∈ done) :
    t ∈ (scan s done b).2 := by
  induction b generalizing s done with
  | nil => exact h
  | cons x b ih => exact ih (List.mem_append_right _ h)

/-- By induction on the bytes: the tokens and the begun character stand for all that has been read. -/
theorem scan_of_chars {s : State} {done : List Token} {b : Bytes} (hs : ∀ p ∈ s, p.Sound)
    (hrest : (scan s done b).1 = none) (h : ∀ t ∈ (scan s done b).2, t.IsChar) :
    (scan s done b).2.reverse.flatMap Token.bytes =
      done.reverse.flatMap Token.bytes ++ (held s ++ b) := by
  induction b generalizing s done with
  | nil =>
    obtain rfl : s = none := hrest
    exact (List.append_nil _).symm
  | cons x b ih =>
    have hmem : ∀ t ∈ (step s x).2, t.IsChar := fun t ht =>
      h t (mem_scan b (List.mem_append_left _ (List.mem_reverse.2 ht)))
    obtain ⟨hsound, hbytes⟩ := step_of_chars hs hmem
    have hcons : held s ++ x :: b = held s ++ [x] ++ b := by simp
    rw [scan, ih hsound hrest h, hcons, hbytes]
    simp

theorem firstDefect_eq_none {before : Nat} {ts : List Token} {s : State}
    (h : firstDefect before ts s = none) : s = none ∧ ∀ t ∈ ts, t.IsChar := by
  induction ts generalizing before with
  | nil =>
    cases s with
    | none => exact ⟨rfl, nofun⟩
    | some p => cases h
  | cons t ts ih =>
    cases t with
    | fault n => cases h
    | char c =>
      obtain ⟨hs, hts⟩ := ih h
      exact ⟨hs, List.forall_mem_cons.2 ⟨⟨c, rfl⟩, hts⟩⟩

/-- **Main theorem.** A byte string reads as a text exactly if it is the bytes of that text. -/
theorem text?_eq_ok_iff {b : Bytes} {s : String} : text? b = .ok s ↔ b = Bytes.ofString s := by
  refine ⟨fun h => ?_, fun h => h ▸ text?_ofString s⟩
  rcases hscan : scan none [] b with ⟨rest, ts⟩
  have hdefect : firstDefect 0 ts.reverse rest = none := by
    unfold text? at h
    split at h
    · rename_i hnone
      rwa [defect?, tokens, hscan] at hnone
    · cases h
  obtain ⟨rfl, hchars⟩ := firstDefect_eq_none hdefect
  have hbytes : ts.reverse.flatMap Token.bytes = b := by
    have hall := @scan_of_chars none [] b fun p hp => absurd hp (Option.not_mem_none p)
    rw [hscan] at hall
    exact hall rfl fun t ht => hchars t (List.mem_reverse.2 ht)
  have hshown : ts.reverse.flatMap Token.bytes =
      (ts.reverse.map Token.shown).flatMap String.utf8EncodeChar := by
    rw [List.flatMap_map, List.flatMap_def, List.flatMap_def]
    refine congrArg List.flatten (List.map_congr_left fun t ht => ?_)
    obtain ⟨c, rfl⟩ := hchars t ht
    rfl
  have hlossy : s = String.ofList (ts.reverse.map Token.shown) := by
    have hnone : defect? b = none := by
      rw [defect?, tokens, hscan]
      exact hdefect
    rw [text?, hnone] at h
    rw [← Except.ok.inj h, lossy, tokens, hscan]
    exact congrArg String.ofList (List.append_nil _)
  rw [hlossy, Bytes.ofString_eq_flatMap, String.toList_ofList, ← hshown, hbytes]

end DebugBridge.Utf8
