import DebugBridge.Text.Numeral

/-!
# Decimal fractions

A decimal fraction has an optional sign, digits with an optional point among, before or after them,
and an optional exponent. The words for infinity and for no number, in any case of letters, are read
too. The value is the nearest binary64 number.
-/

namespace DebugBridge.Text

/-- The exponent after an `e`, with all of the text used up. -/
def exponent? (cs : List Char) : Option Int :=
  match cs with
  | '+' :: rest => (decimal? rest).map fun n => (n : Int)
  | '-' :: rest => (decimal? rest).map fun n => -(n : Int)
  | _ => (decimal? cs).map fun n => (n : Int)

/-- The binary64 number nearest to `m · 10 ^ e`, infinity if it is too large. Magnitudes far beyond
the range are settled by the number of digits. -/
def nearest (m : Nat) (e : Int) : Float :=
  let size := (Nat.toDigits 10 m).length + e
  if m = 0 ∨ size < -400 then 0.0
  else if 400 < size then 1.0 / 0.0
  else if 0 ≤ e then Float.ofScientific m false e.toNat
  else Float.ofScientific m true (-e).toNat

/-- The number of an unsigned decimal fraction. -/
def magnitude? (cs : List Char) : Option Float :=
  let lower := cs.map Char.toLower
  if lower = "inf".toList ∨ lower = "infinity".toList then some (1.0 / 0.0)
  else if lower = "nan".toList then some (0.0 / 0.0)
  else
    let (whole, rest) := spanDigits cs
    let (fraction, rest) := match rest with
      | '.' :: more => spanDigits more
      | _ => ([], rest)
    if whole.isEmpty && fraction.isEmpty then none
    else
      let mantissa := (digits? 10 digit? 0 (whole ++ fraction)).getD 0
      let scale := fun (e : Int) => nearest mantissa (e - (fraction.length : Int))
      match rest with
      | [] => some (scale 0)
      | 'e' :: more => (exponent? more).map scale
      | 'E' :: more => (exponent? more).map scale
      | _ => none

/-- The number of a decimal fraction. -/
def float? (cs : List Char) : Option Float :=
  match cs with
  | '+' :: rest => magnitude? rest
  | '-' :: rest => (magnitude? rest).map (- ·)
  | _ => magnitude? cs

/-- A span of seconds, written as a decimal fraction, in milliseconds; a half is rounded up and spans
beyond 64 bits give the largest number. A negative or unbounded span has none. -/
def millisOfSeconds? (cs : List Char) : Option Nat :=
  match float? cs with
  | some seconds =>
    if seconds.isFinite && 0.0 ≤ seconds then some (Float.round (seconds * 1000.0)).toUInt64.toNat
    else none
  | none => none

end DebugBridge.Text
