import DebugBridge.Duration

/-!
# Spans in two words

A machine keeps a span in two words: the whole seconds in 64 bits, and in 32 bits the nanoseconds beyond
them, which are less than a second. A product or sum of words may be too large for a word. Where that is
looked for, the longest span is taken instead; where it is not, the machine stops, and there is no result.
-/

namespace DebugBridge

/-- The product of two words, if a word can hold it. -/
def wordProduct? (a b : UInt64) : Option UInt64 :=
  if a.toNat * b.toNat < UInt64.size then some (a * b) else none

/-- The sum of two words, if a word can hold it. -/
def wordSum? (a b : UInt64) : Option UInt64 :=
  if a.toNat + b.toNat < UInt64.size then some (a + b) else none

/-- A span in two words. -/
structure Parts where
  /-- The whole seconds. -/
  secs : UInt64
  /-- The nanoseconds beyond them. -/
  nanos : UInt32
  nanos_lt : nanos.toNat < nanosPerSecond
  deriving Repr, DecidableEq

namespace Parts

/-- The span. -/
def span (p : Parts) : Duration := .ofParts p.secs.toNat p.nanos.toNat

/-- The longest span. -/
def longest : Parts := ⟨18446744073709551615, 999999999, by decide⟩

/-- A span of seconds and nanoseconds, of which there may be more than a second has. The machine stops if
the seconds get too many by them. -/
def ofWords? (secs : UInt64) (nanos : UInt32) : Option Parts :=
  if h : nanos.toNat < nanosPerSecond then some ⟨secs, nanos, h⟩
  else (wordSum? secs (nanos / 1000000000).toUInt64).map fun secs =>
    ⟨secs, nanos % 1000000000, Nat.mod_lt nanos.toNat (by decide)⟩

/-- A span taken `k` times, or the longest span if the seconds get too many. The machine stops if the
nanoseconds do. -/
def times? (p : Parts) (k : UInt32) : Option Parts :=
  (wordProduct? p.nanos.toUInt64 k.toUInt64).bind fun nanos =>
    match (wordProduct? p.secs k.toUInt64).bind (wordSum? · (nanos / 1000000000)) with
    | some secs => ofWords? secs (nanos % 1000000000).toUInt32
    | none => some longest

/-- The shorter of two spans: the seconds decide first. -/
def shorter (a b : Parts) : Parts :=
  if a.secs < b.secs ∨ a.secs = b.secs ∧ a.nanos ≤ b.nanos then a else b

end Parts

end DebugBridge
