/-!
# Byte strings

Everything that crosses a connection is a finite string of bytes, kept as a list so that cutting and
joining are the list operations. Words travel as four bytes, lowest first.

Results:
* `word_ofWord`, `ofWord_word`, a word is read back from its bytes, and four bytes are those of a word;
* `flatten_pieces`, `mem_pieces`, a string is cut into non-empty pieces that join to it.
-/

namespace DebugBridge

/-- A byte string. -/
abbrev Bytes := List UInt8

namespace Bytes

/-- The UTF-8 bytes of a text. -/
def ofString (s : String) : Bytes := s.toByteArray.data.toList

/-- The four bytes of a word, lowest first. -/
def ofWord (w : UInt32) : Bytes :=
  [w.toUInt8, (w >>> 8).toUInt8, (w >>> 16).toUInt8, (w >>> 24).toUInt8]

/-- The word whose bytes, lowest first, begin a byte string; a string of fewer than four bytes
counts as zero. -/
def word : Bytes → UInt32
  | a :: b :: c :: d :: _ =>
    a.toUInt32 ||| (b.toUInt32 <<< 8) ||| (c.toUInt32 <<< 16) ||| (d.toUInt32 <<< 24)
  | _ => 0

/-- A byte string cut into pieces of `n` bytes, the last one possibly shorter (`n = 0` counts as
one). -/
def pieces (n : Nat) (b : Bytes) : List Bytes :=
  go b []
where
  /-- The pieces of the rest, put behind those cut off already (last first). -/
  go (rest : Bytes) (done : List Bytes) : List Bytes :=
    match rest with
    | [] => done.reverse
    | x :: xs => go (xs.drop (n - 1)) ((x :: xs.take (n - 1)) :: done)
  termination_by rest.length
  decreasing_by simp only [List.length_drop, List.length_cons]; omega

theorem length_ofWord (w : UInt32) : (ofWord w).length = 4 := rfl

theorem word_ofWord (w : UInt32) (rest : Bytes) : word (ofWord w ++ rest) = w := by
  apply UInt32.eq_of_toBitVec_eq
  show (w.toBitVec.setWidth 8).setWidth 32 |||
      ((w.toBitVec >>> 8).setWidth 8).setWidth 32 <<< 8 |||
      ((w.toBitVec >>> 16).setWidth 8).setWidth 32 <<< 16 |||
      ((w.toBitVec >>> 24).setWidth 8).setWidth 32 <<< 24 = w.toBitVec
  apply BitVec.eq_of_getLsbD_eq
  intro i hi
  simp only [BitVec.getLsbD_or, BitVec.getLsbD_setWidth, BitVec.getLsbD_shiftLeft,
    BitVec.getLsbD_ushiftRight]
  -- bit `i` stands in byte `i / 8`; the other bytes have nothing there
  by_cases h8 : i < 8
  · simp [h8, hi, show i < 16 by omega, show i < 24 by omega]
  by_cases h16 : i < 16
  · simp [h8, h16, hi, show i < 24 by omega, show i - 8 < 32 by omega, show i - 8 < 8 by omega,
      show 8 + (i - 8) = i by omega]
  by_cases h24 : i < 24
  · simp [h8, h16, h24, hi, show ¬ i - 8 < 8 by omega, show i - 16 < 32 by omega,
      show i - 16 < 8 by omega, show 16 + (i - 16) = i by omega]
  · simp [h8, h16, h24, hi, show ¬ i - 8 < 8 by omega, show ¬ i - 16 < 8 by omega,
      show i - 24 < 32 by omega, show i - 24 < 8 by omega, show 24 + (i - 24) = i by omega]

/-- Four bytes are those of their word. -/
theorem ofWord_word (a b c d : UInt8) : ofWord (word [a, b, c, d]) = [a, b, c, d] := by
  have hbits (i : Nat) (hi : i < 32) : (word [a, b, c, d]).toBitVec.getLsbD i =
      (a.toBitVec.getLsbD i || (decide (8 ≤ i) && b.toBitVec.getLsbD (i - 8)) ||
        (decide (16 ≤ i) && c.toBitVec.getLsbD (i - 16)) ||
        (decide (24 ≤ i) && d.toBitVec.getLsbD (i - 24))) := by
    show (a.toBitVec.setWidth 32 ||| b.toBitVec.setWidth 32 <<< 8 |||
      c.toBitVec.setWidth 32 <<< 16 ||| d.toBitVec.setWidth 32 <<< 24).getLsbD i = _
    simp only [BitVec.getLsbD_or, BitVec.getLsbD_setWidth, BitVec.getLsbD_shiftLeft, hi,
      decide_true, Bool.true_and, show i - 8 < 32 by omega, show i - 16 < 32 by omega,
      show i - 24 < 32 by omega, ← decide_not, Nat.not_lt]
  have hbyte (k : Nat) (x : UInt8) (hx : ∀ i < 8,
      (word [a, b, c, d]).toBitVec.getLsbD (k + i) = x.toBitVec.getLsbD i) :
      ((word [a, b, c, d]).toBitVec >>> k).setWidth 8 = x.toBitVec := by
    apply BitVec.eq_of_getLsbD_eq
    intro i hi
    rw [BitVec.getLsbD_setWidth, BitVec.getLsbD_ushiftRight, hx i hi]
    simp [hi]
  have hover (x : UInt8) {i : Nat} (hi : 8 ≤ i) : x.toBitVec.getLsbD i = false :=
    BitVec.getLsbD_of_ge _ _ hi
  simp only [ofWord, List.cons.injEq, and_true]
  refine ⟨?_, ?_, ?_, ?_⟩ <;> apply UInt8.eq_of_toBitVec_eq
  · refine hbyte 0 a fun i hi => ?_
    rw [hbits _ (by omega)]
    simp [show ¬ 8 ≤ i by omega, show ¬ 16 ≤ i by omega, show ¬ 24 ≤ i by omega]
  · refine hbyte 8 b fun i hi => ?_
    rw [hbits _ (by omega), hover a (by omega)]
    simp [show ¬ 16 ≤ 8 + i by omega, show ¬ 24 ≤ 8 + i by omega]
  · refine hbyte 16 c fun i hi => ?_
    rw [hbits _ (by omega), hover a (by omega), hover b (by omega)]
    simp [show ¬ 24 ≤ 16 + i by omega]
  · refine hbyte 24 d fun i hi => ?_
    rw [hbits _ (by omega), hover a (by omega), hover b (by omega), hover c (by omega)]
    simp

theorem ofString_append (s t : String) : ofString (s ++ t) = ofString s ++ ofString t := by
  simp [ofString]

theorem ofString_eq_flatMap (s : String) : ofString s = s.toList.flatMap String.utf8EncodeChar := by
  rw [ofString, ← String.utf8Encode_toList, List.utf8Encode, List.toList_data_toByteArray]

theorem pieces_go (n : Nat) (rest : Bytes) (done : List Bytes) :
    pieces.go n rest done = done.reverse ++ pieces n rest := by
  induction hl : rest.length using Nat.strongRecOn generalizing rest done with
  | ind len ih =>
    cases rest with
    | nil => simp [pieces, pieces.go]
    | cons x xs =>
      have hlt : (xs.drop (n - 1)).length < len := by
        simp only [List.length_drop, ← hl, List.length_cons]; omega
      rw [pieces, pieces.go, ih _ hlt _ _ rfl, pieces.go, ih _ hlt _ _ rfl]
      simp

@[simp] theorem pieces_nil (n : Nat) : pieces n [] = [] := by
  rw [pieces, pieces.go, List.reverse_nil]

theorem pieces_of_ne_nil {n : Nat} (hn : 0 < n) {b : Bytes} (hb : b ≠ []) :
    pieces n b = b.take n :: pieces n (b.drop n) := by
  obtain ⟨x, xs, rfl⟩ := List.exists_cons_of_ne_nil hb
  obtain ⟨n, rfl⟩ := Nat.exists_eq_succ_of_ne_zero (Nat.ne_of_gt hn)
  rw [pieces, pieces.go, pieces_go]
  rfl

theorem pieces_of_length_le {n : Nat} {b : Bytes} (hb : b ≠ []) (hle : b.length ≤ n) :
    pieces n b = [b] := by
  have hn : 0 < n := Nat.lt_of_lt_of_le (List.length_pos_iff.2 hb) hle
  rw [pieces_of_ne_nil hn hb, List.take_of_length_le hle, List.drop_of_length_le hle, pieces_nil]

theorem flatten_pieces {n : Nat} (hn : 0 < n) (b : Bytes) : (pieces n b).flatten = b := by
  induction hl : b.length using Nat.strongRecOn generalizing b with
  | ind len ih =>
    by_cases hb : b = []
    · rw [hb, pieces_nil, List.flatten_nil]
    · have hlt : (b.drop n).length < len := by
        have := List.length_pos_iff.2 hb
        rw [List.length_drop]; omega
      rw [pieces_of_ne_nil hn hb, List.flatten_cons, ih _ hlt _ rfl, List.take_append_drop]

theorem mem_pieces {n : Nat} (hn : 0 < n) {b c : Bytes} (hc : c ∈ pieces n b) :
    c ≠ [] ∧ c.length ≤ n := by
  induction hl : b.length using Nat.strongRecOn generalizing b with
  | ind len ih =>
    by_cases hb : b = []
    · rw [hb, pieces_nil] at hc
      exact absurd hc List.not_mem_nil
    · have hpos := List.length_pos_iff.2 hb
      have hlt : (b.drop n).length < len := by
        rw [List.length_drop]; omega
      rw [pieces_of_ne_nil hn hb, List.mem_cons] at hc
      rcases hc with rfl | hc
      · refine ⟨List.ne_nil_of_length_pos ?_, List.length_take_le n b⟩
        rw [List.length_take]; omega
      · exact ih _ hlt hc rfl

end Bytes

end DebugBridge
