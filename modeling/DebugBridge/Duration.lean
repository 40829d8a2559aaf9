/-!
# Spans of time

A span is a whole number of nanoseconds, at most 2^64 - 1 seconds and 999999999 nanoseconds.
Multiplication stops at the longest span.

A span is shown in the largest of the units s, ms, µs and ns in which it is at least one, with as many
decimals as it needs.
-/

namespace DebugBridge

/-- Nanoseconds in a second. -/
def nanosPerSecond : Nat := 1000000000

/-- The longest span, in nanoseconds. -/
def longestSpan : Nat := (UInt64.size - 1) * nanosPerSecond + (nanosPerSecond - 1)

/-- A span of time. -/
structure Duration where
  /-- Its length in nanoseconds. -/
  nanos : Nat
  deriving Repr, DecidableEq, Inhabited

namespace Duration

instance : LE Duration := ⟨fun a b => a.nanos ≤ b.nanos⟩

instance (a b : Duration) : Decidable (a ≤ b) := inferInstanceAs (Decidable (a.nanos ≤ b.nanos))

/-- A span given in seconds and nanoseconds. -/
def ofParts (secs nanos : Nat) : Duration := ⟨secs * nanosPerSecond + nanos⟩

/-- A span of whole milliseconds. -/
def ofMillis (ms : Nat) : Duration := ⟨ms * 1000000⟩

/-- The empty span. -/
def zero : Duration := ⟨0⟩

/-- The longest span. -/
def longest : Duration := ⟨longestSpan⟩

/-- The whole seconds of a span. -/
def seconds (d : Duration) : Nat := d.nanos / nanosPerSecond

/-- The nanoseconds beyond the whole seconds. -/
def subsecond (d : Duration) : Nat := d.nanos % nanosPerSecond

/-- The whole milliseconds of a span. -/
def millis (d : Duration) : Nat := d.nanos / 1000000

/-- A span taken `k` times, or the longest span if that is too long. -/
def times (d : Duration) (k : Nat) : Duration := ⟨min (d.nanos * k) longestSpan⟩

/-- The shorter of two spans. -/
def shorter (a b : Duration) : Duration := ⟨min a.nanos b.nanos⟩

/-- A number with a fraction of `places` decimal places, without zeros at the end of the fraction. -/
def decimalText (whole fraction places : Nat) : String :=
  let digits := (Nat.toDigits 10 fraction).leftpad places '0'
  let kept := (digits.reverse.dropWhile (· == '0')).reverse
  if kept.isEmpty then toString whole else s!"{whole}." ++ String.ofList kept

/-- How a span is shown. -/
def text (d : Duration) : String :=
  if nanosPerSecond ≤ d.nanos then decimalText d.seconds d.subsecond 9 ++ "s"
  else if 1000000 ≤ d.nanos then decimalText (d.nanos / 1000000) (d.nanos % 1000000) 6 ++ "ms"
  else if 1000 ≤ d.nanos then decimalText (d.nanos / 1000) (d.nanos % 1000) 3 ++ "µs"
  else s!"{d.nanos}ns"

end Duration

end DebugBridge
