import DebugBridge.Bytes

/-!
# Reading UTF-8

Bytes are read one at a time by a small machine. It holds the character that has been begun, and
gives a token whenever a character is complete or a fault is certain. A fault is a longest string of
bytes that begins a character but cannot be continued by what follows, or one byte that begins none;
the byte after a fault is read afresh.

* `lossy` writes U+FFFD for each fault, and one more for a character cut off by the end;
* `text?` accepts a byte string without faults;
* `Defect` says where the first fault lies and how long it is.
-/

namespace DebugBridge.Utf8

/-- A character that has been begun. -/
structure Partial where
  /-- Bytes read so far, at least one. -/
  seen : Nat
  /-- Bytes still missing, at least one. -/
  need : Nat
  /-- The least byte that may come next. -/
  low : UInt8
  /-- The greatest byte that may come next. -/
  high : UInt8
  /-- The code point formed by the bytes so far. -/
  value : Nat
  deriving Repr, DecidableEq

/-- What the machine gives out. -/
inductive Token
  | char (c : Char)
  /-- A fault of so many bytes. -/
  | fault (size : Nat)
  deriving Repr, DecidableEq

/-- The character that a byte outside ASCII begins, if it begins one. The ranges of the second byte
keep out overlong forms, surrogates and code points above 10FFFF. -/
def Partial.ofLead? (b : UInt8) : Option Partial :=
  if 0xC2 ≤ b ∧ b ≤ 0xDF then some ⟨1, 1, 0x80, 0xBF, b.toNat - 0xC0⟩
  else if b = 0xE0 then some ⟨1, 2, 0xA0, 0xBF, 0⟩
  else if b = 0xED then some ⟨1, 2, 0x80, 0x9F, 0xD⟩
  else if 0xE1 ≤ b ∧ b ≤ 0xEF then some ⟨1, 2, 0x80, 0xBF, b.toNat - 0xE0⟩
  else if b = 0xF0 then some ⟨1, 3, 0x90, 0xBF, 0⟩
  else if b = 0xF4 then some ⟨1, 3, 0x80, 0x8F, 4⟩
  else if 0xF1 ≤ b ∧ b ≤ 0xF3 then some ⟨1, 3, 0x80, 0xBF, b.toNat - 0xF0⟩
  else none

/-- The machine's memory: nothing, or a character that has been begun. -/
abbrev State := Option Partial

/-- Reads a byte with no character begun. -/
def start (b : UInt8) : State × List Token :=
  if b < 0x80 then (none, [.char (Char.ofNat b.toNat)])
  else match Partial.ofLead? b with
    | some p => (some p, [])
    | none => (none, [.fault 1])

/-- Reads one byte. -/
def step : State → UInt8 → State × List Token
  | none, b => start b
  | some p, b =>
    if p.low ≤ b ∧ b ≤ p.high then
      let value := p.value * 64 + (b.toNat - 0x80)
      if p.need = 1 then (none, [.char (Char.ofNat value)])
      else (some ⟨p.seen + 1, p.need - 1, 0x80, 0xBF, value⟩, [])
    else
      let (s, ts) := start b
      (s, .fault p.seen :: ts)

/-- Reads a byte string; the tokens are kept last first. -/
def scan (s : State) (done : List Token) : Bytes → State × List Token
  | [] => (s, done)
  | b :: bs => scan (step s b).1 ((step s b).2.reverse ++ done) bs

/-- The tokens of a byte string, and the character left unfinished at its end. -/
def tokens (b : Bytes) : State × List Token :=
  let (s, ts) := scan none [] b
  (s, ts.reverse)

/-- The character that stands for a fault. -/
def replacement : Char := '\uFFFD'

/-- The character written for a token. -/
def Token.shown : Token → Char
  | .char c => c
  | .fault _ => replacement

/-- The text of a byte string, with U+FFFD for each fault. -/
def lossy (b : Bytes) : String :=
  let (s, ts) := tokens b
  String.ofList (ts.map Token.shown ++ if s.isSome then [replacement] else [])

/-- The first fault of a byte string. -/
structure Defect where
  /-- The number of sound bytes before it. -/
  index : Nat
  /-- Its length; none if the byte string ends inside a character. -/
  size : Option Nat
  deriving Repr, DecidableEq

/-- The first fault among some tokens, `at` bytes of sound text having gone before. -/
def firstDefect (before : Nat) : List Token → State → Option Defect
  | [], none => none
  | [], some _ => some ⟨before, none⟩
  | .char c :: ts, s => firstDefect (before + c.utf8Size) ts s
  | .fault n :: _, _ => some ⟨before, some n⟩

/-- The first fault of a byte string, if it has one. -/
def defect? (b : Bytes) : Option Defect :=
  let (s, ts) := tokens b
  firstDefect 0 ts s

/-- How a fault is reported. -/
def Defect.message (d : Defect) : String :=
  match d.size with
  | some n => s!"invalid utf-8 sequence of {n} bytes from index {d.index}"
  | none => s!"incomplete utf-8 byte sequence from index {d.index}"

/-- The text of a byte string, or its first fault. -/
def text? (b : Bytes) : Except Defect String :=
  match defect? b with
  | none => .ok (lossy b)
  | some d => .error d

end DebugBridge.Utf8
