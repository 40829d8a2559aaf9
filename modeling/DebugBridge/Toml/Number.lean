import DebugBridge.Text.Decimal
import DebugBridge.Text.Reader
import DebugBridge.Toml.Value

/-!
# Numbers in TOML

A decimal number has an optional sign and no needless zero in front; an underscore may stand between
two digits. Hexadecimal, octal and binary numbers have a prefix and no sign. A whole number fits 64
bits with sign. A number with a fraction or an exponent must not be larger than every binary64 number.
-/

namespace DebugBridge.Toml

open Text (Reader)

/-- Digits with single underscores between them; at least one. -/
def digitRun (isDigit : Char → Bool) : Reader (List Char)
  | c :: rest => if isDigit c then some (go [c] rest) else none
  | [] => none
where
  /-- The digits after those read already (last first). -/
  go (done : List Char) : List Char → List Char × List Char
    | '_' :: c :: rest => if isDigit c then go (c :: done) rest else (done.reverse, '_' :: c :: rest)
    | c :: rest => if isDigit c then go (c :: done) rest else (done.reverse, c :: rest)
    | [] => (done.reverse, [])

/-- Splits off a sign. -/
def sign : List Char → List Char × List Char
  | '+' :: rest => (['+'], rest)
  | '-' :: rest => (['-'], rest)
  | cs => ([], cs)

/-- The digits of a decimal number: a zero alone, or digits that begin with another. -/
def wholeDigits : Reader (List Char)
  | '0' :: rest => some (['0'], rest)
  | cs => digitRun Char.isDigit cs

/-- A whole number with sign that fits 64 bits. -/
def within64 (n : Int) : Option Scalar :=
  if Int64.minValue.toInt ≤ n ∧ n ≤ Int64.maxValue.toInt then some (.integer n) else none

/-- A whole number in another base, after its prefix. -/
def based (base : Nat) (value? : Char → Option Nat) : Reader Toml := fun cs => do
  let (ds, rest) ← digitRun (fun c => (value? c).isSome) cs
  let n ← Text.digits? base value? 0 ds
  pure (.scalar (← within64 n), rest)

/-- The value of a digit below a base. -/
def digitBelow (base : Nat) (c : Char) : Option Nat := (Text.digit? c).filter (· < base)

/-- A whole number. -/
def integer : Reader Toml
  | '0' :: 'x' :: rest => based 16 Text.hexDigit? rest
  | '0' :: 'o' :: rest => based 8 (digitBelow 8) rest
  | '0' :: 'b' :: rest => based 2 (digitBelow 2) rest
  | cs => do
    let (sg, body) := sign cs
    let (ds, rest) ← wholeDigits body
    let n ← Text.decimal? ds
    pure (.scalar (← within64 (if sg = ['-'] then -(n : Int) else n)), rest)

/-- The fraction after a number's whole part. -/
def fraction : Reader (List Char)
  | '.' :: rest => (digitRun Char.isDigit rest).map fun (ds, r) => ('.' :: ds, r)
  | _ => none

/-- The exponent of a number. -/
def exponent : Reader (List Char)
  | c :: rest =>
    if c = 'e' ∨ c = 'E' then
      let (sg, body) := sign rest
      (digitRun Char.isDigit body).map fun (ds, r) => ('e' :: sg ++ ds, r)
    else none
  | [] => none

/-- A reader that may read nothing. -/
def optionally (r : Reader (List Char)) (cs : List Char) : List Char × List Char :=
  (r cs).getD ([], cs)

/-- A number with a fraction or an exponent. -/
def fractional : Reader Toml := fun cs => do
  let (sg, body) := sign cs
  let (whole, rest) ← wholeDigits body
  let (tail, rest) ← match exponent rest with
    | some found => pure found
    | none => do
      let (fr, rest) ← fraction rest
      let (ex, rest) := optionally exponent rest
      pure (fr ++ ex, rest)
  let written := sg ++ whole ++ tail
  let x ← Text.float? written
  if x == 1.0 / 0.0 then none else pure (.float (String.ofList written), rest)

/-- Infinity, or no number. -/
def special : Reader Toml := fun cs =>
  let (sg, body) := sign cs
  match body with
  | 'i' :: 'n' :: 'f' :: rest => some (.float (String.ofList (sg ++ ['i', 'n', 'f'])), rest)
  | 'n' :: 'a' :: 'n' :: rest => some (.float (String.ofList (sg ++ ['n', 'a', 'n'])), rest)
  | _ => none

end DebugBridge.Toml
