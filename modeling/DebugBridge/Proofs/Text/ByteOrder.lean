import DebugBridge.Bytes
import Mathlib.Algebra.Group.Nat.Defs

/-!
# The order of texts is that of their bytes

The UTF-8 bytes of a character are a first byte and the last digits of its code point to the base 64.
The first bytes of shorter forms are below those of longer ones, and code points of shorter forms below
those of longer ones. So of two characters the bytes of the lesser come first, whatever follows them, and
texts are in the same order as their bytes.

Results:
* `Bytes.utf8EncodeChar_of_mem`, a byte below 128 stands for one character and nothing else;
* `Bytes.ofString_lt_ofString`, texts are in the order of their bytes.
-/

namespace DebugBridge.Bytes

variable {x y : Bytes}

theorem ofNat_cons_lt {m n : Nat} (hm : m < 0x100) (hn : n < 0x100) (h : m < n ∨ m = n ∧ x < y) :
    UInt8.ofNat m :: x < UInt8.ofNat n :: y := by
  rw [List.cons_lt_cons_iff]
  rcases h with h | ⟨rfl, h⟩
  · refine .inl (UInt8.lt_iff_toNat_lt.2 ?_)
    rwa [UInt8.toNat_ofNat_of_lt' hm, UInt8.toNat_ofNat_of_lt' hn]
  · exact .inr ⟨rfl, h⟩

/-- The last `k` digits of a code point to the base 64, as they stand in its bytes. -/
def digits (v : Nat) : Nat → Bytes
  | 0 => []
  | k + 1 => UInt8.ofNat (v / 64 ^ k % 64 + 0x80) :: digits v k

theorem digits_append_lt {v w k : Nat} (h : v % 64 ^ k < w % 64 ^ k) (x y : Bytes) :
    digits v k ++ x < digits w k ++ y := by
  induction k with
  | zero => simp [Nat.mod_one] at h
  | succ k ih =>
    rw [Nat.mod_pow_succ, Nat.mod_pow_succ] at h
    have hw : w % 64 ^ k < 64 ^ k := Nat.mod_lt _ (Nat.pow_pos (by decide))
    refine ofNat_cons_lt (by omega) (by omega) ?_
    rcases Nat.lt_trichotomy (v / 64 ^ k % 64) (w / 64 ^ k % 64) with hlt | heq | hgt
    · exact .inl (by omega)
    · rw [heq] at h
      exact .inr ⟨by omega, ih (by omega)⟩
    · have hdigit := Nat.mul_le_mul_left (64 ^ k) hgt
      rw [Nat.succ_eq_add_one, Nat.mul_add_one] at hdigit
      omega

/-- The least code point that needs `k` bytes after the first. -/
def least : Nat → Nat
  | 0 => 0
  | 1 => 0x80
  | 2 => 0x800
  | 3 => 0x10000
  | _ => 0x110000

/-- The least first byte with `k` bytes after it. -/
def mark : Nat → Nat
  | 0 => 0
  | 1 => 0xC0
  | 2 => 0xE0
  | 3 => 0xF0
  | _ => 0xF5

/-- The bytes of a character are a first byte and digits; the code point tells how many. -/
theorem exists_utf8EncodeChar_eq (c : Char) : ∃ k < 4,
    least k ≤ c.val.toNat ∧ c.val.toNat < least (k + 1) ∧
      String.utf8EncodeChar c =
        UInt8.ofNat (c.val.toNat / 64 ^ k + mark k) :: digits c.val.toNat k := by
  have hvalid : c.val.toNat < 0xD800 ∨ 0xDFFF < c.val.toNat ∧ c.val.toNat < 0x110000 := c.valid
  rw [String.utf8EncodeChar]
  generalize c.val.toNat = v at hvalid
  by_cases h1 : v ≤ 0x7F
  · refine ⟨0, by decide, Nat.zero_le v, Nat.lt_succ_of_le h1, ?_⟩
    simp [if_pos h1, digits, mark]
  by_cases h2 : v ≤ 0x7FF
  · refine ⟨1, by decide, Nat.lt_of_not_le h1, Nat.lt_succ_of_le h2, ?_⟩
    have hfirst : v / 64 % 0x20 = v / 64 := Nat.mod_eq_of_lt (by omega)
    simp [if_neg h1, if_pos h2, digits, mark, hfirst]
  by_cases h3 : v ≤ 0xFFFF
  · refine ⟨2, by decide, Nat.lt_of_not_le h2, Nat.lt_succ_of_le h3, ?_⟩
    have hfirst : v / 4096 % 0x10 = v / 4096 := Nat.mod_eq_of_lt (by omega)
    simp [if_neg h1, if_neg h2, if_pos h3, digits, mark, hfirst]
  · have hlast : v < 0x110000 := by omega
    refine ⟨3, by decide, Nat.lt_of_not_le h3, hlast, ?_⟩
    have hfirst : v / 262144 % 0x08 = v / 262144 := Nat.mod_eq_of_lt (by omega)
    simp [if_neg h1, if_neg h2, if_neg h3, digits, mark, hfirst]

theorem least_le_least {k m : Nat} (h : k ≤ m) (hm : m ≤ 4) : least k ≤ least m := by
  have hall : ∀ m ≤ 4, ∀ k ≤ m, least k ≤ least m := by decide
  exact hall m hm k h

/-- First bytes of shorter forms are below those of longer ones. -/
theorem mark_le_mark {k m : Nat} (h : k ≤ m) (hm : m ≤ 4) : mark k ≤ mark m := by
  have hall : ∀ m ≤ 4, ∀ k ≤ m, mark k ≤ mark m := by decide
  exact hall m hm k h

/-- A first byte is below those of longer forms. -/
theorem first_lt_mark {v k : Nat} (hk : k < 4) (hv : v < least (k + 1)) :
    v / 64 ^ k + mark k < mark (k + 1) := by
  match k, hk with
  | 0, _ | 1, _ | 2, _ | 3, _ =>
    simp only [least, mark] at hv ⊢
    omega

theorem le_of_mem_digits {v k : Nat} {b : UInt8} (h : b ∈ digits v k) : 0x80 ≤ b.toNat := by
  induction k with
  | zero => cases h
  | succ k ih =>
    rcases List.mem_cons.1 h with rfl | h
    · rw [UInt8.toNat_ofNat_of_lt' (by rw [UInt8.size]; omega)]
      omega
    · exact ih h

/-- A byte below 128 stands for the character of its number, and only for it. -/
theorem utf8EncodeChar_of_mem {b : UInt8} {c : Char} (hb : b.toNat < 0x80)
    (h : b ∈ String.utf8EncodeChar c) : c = Char.ofNat b.toNat ∧ String.utf8EncodeChar c = [b] := by
  obtain ⟨k, hk, -, hlt, hbytes⟩ := exists_utf8EncodeChar_eq c
  rw [hbytes] at h ⊢
  rcases List.mem_cons.1 h with rfl | h
  · have hfirst := first_lt_mark hk hlt
    have hbound : mark (k + 1) ≤ 0xF5 := mark_le_mark hk (Nat.le_refl 4)
    rw [UInt8.toNat_ofNat_of_lt' (by rw [UInt8.size]; omega)] at hb ⊢
    match k, hk with
    | 0, _ =>
      simp only [pow_zero, Nat.div_one, mark, Nat.add_zero, digits, and_true]
      exact (Char.ofNat_toNat c).symm
    | 1, _ | 2, _ | 3, _ =>
      simp only [mark] at hb
      omega
  · exact absurd (le_of_mem_digits h) (Nat.not_le.2 hb)

theorem mem_of_mem_ofString {b : UInt8} {s : String} (hb : b.toNat < 0x80) (h : b ∈ ofString s) :
    Char.ofNat b.toNat ∈ s.toList := by
  rw [ofString_eq_flatMap, List.mem_flatMap] at h
  obtain ⟨c, hc, hmem⟩ := h
  exact (utf8EncodeChar_of_mem hb hmem).1 ▸ hc

/-- The bytes of the lesser character come first, whatever follows them. -/
theorem utf8EncodeChar_append_lt {c d : Char} (h : c < d) (x y : Bytes) :
    String.utf8EncodeChar c ++ x < String.utf8EncodeChar d ++ y := by
  obtain ⟨k, hk, hleast, hlt, hc⟩ := exists_utf8EncodeChar_eq c
  obtain ⟨m, hm, hleast', hlt', hd⟩ := exists_utf8EncodeChar_eq d
  have hval : c.val.toNat < d.val.toNat := UInt32.lt_iff_toNat_lt.1 h
  rw [hc, hd]
  generalize c.val.toNat = v at *
  generalize d.val.toNat = w at *
  have hfirst := first_lt_mark hk hlt
  have hfirst' := first_lt_mark hm hlt'
  have hmark : mark (k + 1) ≤ 0xF5 := mark_le_mark hk (Nat.le_refl 4)
  have hmark' : mark (m + 1) ≤ 0xF5 := mark_le_mark hm (Nat.le_refl 4)
  refine ofNat_cons_lt (by omega) (by omega) ?_
  rcases Nat.lt_trichotomy k m with hkm | rfl | hmk
  · have hlonger : mark (k + 1) ≤ mark m := mark_le_mark hkm (Nat.le_of_lt hm)
    exact .inl (Nat.lt_of_lt_of_le hfirst (Nat.le_trans hlonger (Nat.le_add_left _ _)))
  · have hle : v / 64 ^ k ≤ w / 64 ^ k := Nat.div_le_div_right (Nat.le_of_lt hval)
    rcases Nat.lt_or_eq_of_le hle with hlead | hlead
    · exact .inl (by omega)
    · refine .inr ⟨by omega, digits_append_lt ?_ x y⟩
      have hv := Nat.div_add_mod v (64 ^ k)
      have hw := Nat.div_add_mod w (64 ^ k)
      rw [hlead] at hv
      omega
  · have hshorter : least (m + 1) ≤ least k := least_le_least hmk (Nat.le_of_lt hk)
    omega

theorem flatMap_utf8EncodeChar_lt {cs ds : List Char} (h : cs < ds) :
    cs.flatMap String.utf8EncodeChar < ds.flatMap String.utf8EncodeChar := by
  induction cs generalizing ds with
  | nil =>
    cases ds with
    | nil => exact absurd h (List.lt_irrefl [])
    | cons d ds =>
      obtain ⟨m, -, -, -, hd⟩ := exists_utf8EncodeChar_eq d
      rw [List.flatMap_nil, List.flatMap_cons, hd]
      exact List.nil_lt_cons _ _
  | cons c cs ih =>
    cases ds with
    | nil => exact absurd h (List.not_lt_nil _)
    | cons d ds =>
      rw [List.flatMap_cons, List.flatMap_cons]
      rcases List.cons_lt_cons_iff.1 h with hlt | ⟨rfl, hlt⟩
      · exact utf8EncodeChar_append_lt hlt _ _
      · exact List.append_left_lt (ih hlt)

/-- **Main theorem.** Texts are in the order of their bytes. -/
theorem ofString_lt_ofString {s t : String} : ofString s < ofString t ↔ s < t := by
  have hmono {s t : String} (h : s < t) : ofString s < ofString t := by
    rw [ofString_eq_flatMap, ofString_eq_flatMap]
    exact flatMap_utf8EncodeChar_lt h
  refine ⟨fun h => Decidable.byContradiction fun hlt => ?_, hmono⟩
  by_cases hgt : t < s
  · exact List.lt_asymm h (hmono hgt)
  · obtain rfl := String.le_antisymm (String.not_lt.1 hgt) (String.not_lt.1 hlt)
    exact List.lt_irrefl _ h

end DebugBridge.Bytes
