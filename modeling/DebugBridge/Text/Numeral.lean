import DebugBridge.Text.Blank

/-!
# Whole numbers in decimal and hexadecimal

A decimal numeral is a non-empty string of ASCII digits, with leading zeros allowed; a `+` may stand
before it, and a `-` before a signed one. A number out of range is no numeral of its kind.

Results: `word?_toString`, a number that fits 32 bits is read back as it was written;
`hexadecimal?_fourDigits`, so is a number below 65536 in four digits.
-/

namespace DebugBridge.Text

/-- The value of an ASCII digit. -/
def digit? (c : Char) : Option Nat :=
  if '0' ≤ c ∧ c ≤ '9' then some (c.toNat - '0'.toNat) else none

/-- Splits off the digits at the front. -/
def spanDigits (cs : List Char) : List Char × List Char :=
  (cs.takeWhile (digit? · |>.isSome), cs.dropWhile (digit? · |>.isSome))

/-- The value of a hexadecimal digit of either case. -/
def hexDigit? (c : Char) : Option Nat :=
  if '0' ≤ c ∧ c ≤ '9' then some (c.toNat - '0'.toNat)
  else if 'a' ≤ c ∧ c ≤ 'f' then some (c.toNat - 'a'.toNat + 10)
  else if 'A' ≤ c ∧ c ≤ 'F' then some (c.toNat - 'A'.toNat + 10)
  else none

/-- The number written by digits of a base, highest first; none if a character is no digit. -/
def digits? (base : Nat) (value? : Char → Option Nat) (start : Nat) : List Char → Option Nat
  | [] => some start
  | c :: cs => match value? c with
    | some d => digits? base value? (start * base + d) cs
    | none => none

/-- The number of a non-empty string of ASCII digits. -/
def decimal? (cs : List Char) : Option Nat :=
  if cs.isEmpty then none else digits? 10 digit? 0 cs

/-- The number of a non-empty string of hexadecimal digits. -/
def hexadecimal? (cs : List Char) : Option Nat :=
  if cs.isEmpty then none else digits? 16 hexDigit? 0 cs

/-- An unsigned numeral below `bound`. -/
def unsigned? (bound : Nat) (cs : List Char) : Option Nat :=
  let body := match cs with
    | '+' :: rest => rest
    | _ => cs
  (decimal? body).filter (· < bound)

/-- A numeral of a 16-bit port. -/
def port? (s : String) : Option UInt16 := (unsigned? UInt16.size s.toList).map UInt16.ofNat

/-- A numeral of a 32-bit number. -/
def word? (s : String) : Option UInt32 := (unsigned? UInt32.size s.toList).map UInt32.ofNat

/-- A signed numeral that fits 32 bits. -/
def signed? (s : String) : Option Int :=
  let number := match s.toList with
    | '-' :: rest => (decimal? rest).map fun n => -(n : Int)
    | '+' :: rest => (decimal? rest).map Int.ofNat
    | cs => (decimal? cs).map Int.ofNat
  number.filter fun n => Int32.minValue.toInt ≤ n && n ≤ Int32.maxValue.toInt

/-- The hexadecimal digit of a number below sixteen, in lower case. -/
def hexDigit (n : Nat) : Char :=
  if n < 10 then Char.ofNat ('0'.toNat + n) else Char.ofNat ('a'.toNat + (n - 10))

/-- The hexadecimal digit of a number below sixteen, in upper case. -/
def hexDigitUpper (n : Nat) : Char :=
  if n < 10 then Char.ofNat ('0'.toNat + n) else Char.ofNat ('A'.toNat + (n - 10))

/-- A number below 65536 as four digits. -/
def fourDigits (digit : Nat → Char) (n : Nat) : List Char :=
  [digit (n / 4096 % 16), digit (n / 256 % 16), digit (n / 16 % 16), digit (n % 16)]

/-- A number in hexadecimal without leading zeros. -/
def hexText (n : Nat) : String := String.ofList (Nat.toDigits 16 n)

/-! ## Numbers as they are written -/

theorem digit?_of_isDigit {c : Char} (h : c.isDigit = true) :
    digit? c = some (c.toNat - '0'.toNat) := by
  have : '0' ≤ c ∧ c ≤ '9' := by
    simpa [Char.isDigit, Char.le_def] using h
  rw [digit?, if_pos this]

theorem digits?_ten {cs : List Char} (h : ∀ c ∈ cs, c.isDigit = true) (start : Nat) :
    digits? 10 digit? start cs = some (Nat.ofDigitChars 10 cs start) := by
  induction cs generalizing start with
  | nil => simp [digits?]
  | cons c cs ih =>
    rw [digits?, digit?_of_isDigit (h c List.mem_cons_self)]
    simp only
    rw [ih (fun d hd => h d (List.mem_cons_of_mem _ hd)), Nat.ofDigitChars_cons, Nat.mul_comm]

theorem isDigit_of_mem_toString {n : Nat} {c : Char} (h : c ∈ (toString n).toList) :
    c.isDigit = true := by
  rw [Nat.toString_eq_ofList_toDigits, String.toList_ofList] at h
  exact Nat.isDigit_of_mem_toDigits (by omega) (by omega) h

theorem decimal?_toString (n : Nat) : decimal? (toString n).toList = some n := by
  have hd : ∀ c ∈ Nat.toDigits 10 n, c.isDigit = true := fun c hc =>
    Nat.isDigit_of_mem_toDigits (by omega) (by omega) hc
  have hne : (Nat.toDigits 10 n).isEmpty = false := by simp
  rw [Nat.toString_eq_ofList_toDigits, String.toList_ofList, decimal?, hne, digits?_ten hd,
    Nat.ofDigitChars_ten_toDigits]
  rfl

theorem unsigned?_toString {bound n : Nat} (h : n < bound) :
    unsigned? bound (toString n).toList = some n := by
  have : ∀ rest, (toString n).toList ≠ '+' :: rest := by
    intro rest he
    have := isDigit_of_mem_toString (n := n) (c := '+') (by rw [he]; exact List.mem_cons_self)
    revert this
    decide
  unfold unsigned?
  split
  · exact absurd ‹_› (this _)
  · simp only [decimal?_toString]
    simp [h]

theorem word?_toString {n : Nat} (h : n < UInt32.size) :
    word? (toString n) = some (UInt32.ofNat n) := by
  rw [word?, unsigned?_toString h]
  rfl

theorem hexDigit?_hexDigitUpper : ∀ n < 16, hexDigit? (hexDigitUpper n) = some n := by
  decide

theorem hexadecimal?_fourDigits {n : Nat} (h : n ≤ 0xFFFF) :
    hexadecimal? (fourDigits hexDigitUpper n) = some n := by
  have hdigit : ∀ m, hexDigit? (hexDigitUpper (m % 16)) = some (m % 16) := fun m =>
    hexDigit?_hexDigitUpper _ (Nat.mod_lt m (by omega))
  rw [hexadecimal?, fourDigits, List.isEmpty_cons, if_neg Bool.false_ne_true]
  simp only [digits?, hdigit, Option.some.injEq]
  omega

theorem trimmed_toString (n : Nat) : trimmed (toString n) = toString n := by
  rw [trimmed, trim_eq_self fun c hc => isBlank_eq_false_of_isDigit (isDigit_of_mem_toString hc),
    String.ofList_toList]

end DebugBridge.Text
