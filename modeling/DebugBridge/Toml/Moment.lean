import DebugBridge.Text.Reader
import DebugBridge.Toml.Value

/-!
# Dates and times in TOML

A date is `YYYY-MM-DD`, a time `HH:MM:SS` with an optional fraction of a second. A date may be
followed by a time, after a `T` or a blank, and that by an offset. Every part is within its range;
February has 29 days in leap years, and a minute may have a second more.
-/

namespace DebugBridge.Toml

open Text (Reader expect someDigits)

/-- A number of exactly `n` digits, between two bounds. -/
def fixedDigits (n low high : Nat) : Reader Nat := fun cs =>
  let ds := cs.take n
  if ds.length = n then
    match Text.decimal? ds with
    | some v => if low ≤ v ∧ v ≤ high then some (v, cs.drop n) else none
    | none => none
  else none

/-- Is it a leap year? -/
def isLeap (year : Nat) : Bool := year % 4 == 0 && (year % 100 != 0 || year % 400 == 0)

/-- The number of days in a month. -/
def daysIn (year month : Nat) : Nat :=
  if month = 2 then (if isLeap year then 29 else 28)
  else if month = 4 ∨ month = 6 ∨ month = 9 ∨ month = 11 then 30
  else 31

/-- A date. What is read of it does not matter. -/
def date : Reader Unit := fun cs => do
  let (year, cs) ← fixedDigits 4 0 9999 cs
  let cs ← expect '-' cs
  let (month, cs) ← fixedDigits 2 1 12 cs
  let cs ← expect '-' cs
  let (_, cs) ← fixedDigits 2 1 (daysIn year month) cs
  pure ((), cs)

/-- A time of day. -/
def time : Reader Unit := fun cs => do
  let (_, cs) ← fixedDigits 2 0 23 cs
  let cs ← expect ':' cs
  let (_, cs) ← fixedDigits 2 0 59 cs
  let cs ← expect ':' cs
  let (_, cs) ← fixedDigits 2 0 60 cs
  match cs with
  | '.' :: more =>
    match someDigits more with
    | some (_, rest) => pure ((), rest)
    | none => pure ((), cs)
  | _ => pure ((), cs)

/-- An offset from universal time. -/
def offset : Reader Unit
  | c :: cs =>
    if c = 'Z' ∨ c = 'z' then some ((), cs)
    else if c = '+' ∨ c = '-' then do
      let (_, cs) ← fixedDigits 2 0 23 cs
      let cs ← expect ':' cs
      let (_, cs) ← fixedDigits 2 0 59 cs
      pure ((), cs)
    else none
  | [] => none

/-- A time after a date, if there is one. -/
def timeAfterDate (cs : List Char) : List Char :=
  match cs with
  | c :: more =>
    if c = 'T' ∨ c = 't' ∨ c = ' ' then
      match time more with
      | some (_, rest) => ((offset rest).map (·.2)).getD rest
      | none => cs
    else cs
  | [] => cs

/-- A date, a time, or both. -/
def dateOrTime : Reader Toml := fun cs => do
  let rest ← match date cs with
    | some (_, rest) => pure (timeAfterDate rest)
    | none => do
      let (_, rest) ← time cs
      pure rest
  pure (.moment (String.ofList (cs.take (cs.length - rest.length))), rest)

end DebugBridge.Toml
