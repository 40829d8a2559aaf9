import DebugBridge.Json.Value
import DebugBridge.Text.Reader

/-!
# Reading JSON texts

The grammar is that of RFC 8259: blanks are space, tab, line feed and carriage return, a number has no
needless zero in front, a string has no bare control character, and nothing but blanks follows the
value.
-/

namespace DebugBridge.Json

open Text (Reader expect someDigits)

/-- Is it a blank between tokens? -/
def isBlank (c : Char) : Bool := c == ' ' || c == '\t' || c == '\n' || c == '\r'

/-- Without the blanks at the front. -/
def skipBlanks (cs : List Char) : List Char := cs.dropWhile isBlank

/-! ## Numbers -/

/-- The whole part of a number: a zero alone, or digits that begin with another. -/
def wholePart : Reader (List Char)
  | '0' :: cs => if (cs.head?.map Char.isDigit).getD false then none else some (['0'], cs)
  | cs => someDigits cs

/-- The fraction of a number, if it has one. -/
def fractionPart : Reader (List Char)
  | '.' :: cs => (someDigits cs).map fun (ds, rest) => ('.' :: ds, rest)
  | cs => some ([], cs)

/-- The exponent of a number, if it has one. -/
def exponentPart : Reader (List Char)
  | c :: cs =>
    if c = 'e' ∨ c = 'E' then
      let (sign, body) := match cs with
        | '+' :: more => (['+'], more)
        | '-' :: more => (['-'], more)
        | _ => ([], cs)
      (someDigits body).map fun (ds, rest) => (c :: sign ++ ds, rest)
    else some ([], c :: cs)
  | [] => some ([], [])

/-- A number. -/
def numberToken : Reader Json := fun cs => do
  let (sign, body) := match cs with
    | '-' :: more => (['-'], more)
    | _ => ([], cs)
  let (whole, rest) ← wholePart body
  let (fraction, rest) ← fractionPart rest
  let (exponent, rest) ← exponentPart rest
  match sign, fraction, exponent with
  | [], [], [] =>
    let n ← Text.decimal? whole
    pure (.natural n, rest)
  | _, _, _ => pure (.number (String.ofList (sign ++ whole ++ fraction ++ exponent)), rest)

/-! ## Strings -/

/-- A piece of a string: a character, or an escaped half of a surrogate pair. -/
inductive Unit16
  | char (c : Char)
  | high (n : Nat)
  | low (n : Nat)
  deriving Repr, DecidableEq

/-- The piece that four hexadecimal digits name. -/
def Unit16.ofCode (n : Nat) : Unit16 :=
  if 0xD800 ≤ n ∧ n < 0xDC00 then .high (n - 0xD800)
  else if 0xDC00 ≤ n ∧ n < 0xE000 then .low (n - 0xDC00)
  else .char (Char.ofNat n)

/-- The text of some pieces; a half of a surrogate pair must have its other half after it. -/
def Unit16.text? : List Unit16 → Option (List Char)
  | [] => some []
  | .char c :: rest => (text? rest).map (c :: ·)
  | .high h :: .low l :: rest => (text? rest).map (Char.ofNat (0x10000 + h * 0x400 + l) :: ·)
  | .high _ :: _ => none
  | .low _ :: _ => none

/-- The character behind a short escape. -/
def shortEscape? (c : Char) : Option Char :=
  if c = '"' ∨ c = '\\' ∨ c = '/' then some c
  else if c = 'b' then some '\x08'
  else if c = 'f' then some '\x0c'
  else if c = 'n' then some '\n'
  else if c = 'r' then some '\r'
  else if c = 't' then some '\t'
  else none

/-- The pieces of a string after its opening quote, put behind those read already (last first). -/
def stringBody (done : List Unit16) : Reader (List Unit16)
  | [] => none
  | '"' :: rest => some (done.reverse, rest)
  | '\\' :: 'u' :: a :: b :: c :: d :: rest => do
    let n ← Text.hexadecimal? [a, b, c, d]
    stringBody (.ofCode n :: done) rest
  | '\\' :: c :: rest => do
    let x ← shortEscape? c
    stringBody (.char x :: done) rest
  | c :: rest => if c.toNat < 0x20 ∨ c = '\\' then none else stringBody (.char c :: done) rest

/-- The text of a string after its opening quote, if it is sound. -/
def stringToken : Reader (Option String) := fun cs =>
  (stringBody [] cs).map fun (units, rest) => ((Unit16.text? units).map String.ofList, rest)

/-! ## Values -/

mutual

/-- A value, blanks before it apart, by at most so many nested calls. -/
def value (fuel : Nat) (cs : List Char) : Option (Json × List Char) :=
  match fuel with
  | 0 => none
  | fuel + 1 =>
    match skipBlanks cs with
    | 'n' :: 'u' :: 'l' :: 'l' :: rest => some (.null, rest)
    | 't' :: 'r' :: 'u' :: 'e' :: rest => some (.bool true, rest)
    | 'f' :: 'a' :: 'l' :: 's' :: 'e' :: rest => some (.bool false, rest)
    | '"' :: rest => (stringToken rest).map fun (s, rest) => (.string s, rest)
    | '[' :: rest =>
      match skipBlanks rest with
      | ']' :: rest => some (.array [], rest)
      | rest => (elements fuel [] rest).map fun (xs, rest) => (.array xs, rest)
    | '{' :: rest =>
      match skipBlanks rest with
      | '}' :: rest => some (.object [], rest)
      | rest => (members fuel [] rest).map fun (ms, rest) => (.object ms, rest)
    | rest => numberToken rest

/-- The elements of an array up to its closing bracket, put behind those read already. -/
def elements (fuel : Nat) (done : List Json) (cs : List Char) :
    Option (List Json × List Char) :=
  match fuel with
  | 0 => none
  | fuel + 1 => do
    let (x, rest) ← value fuel cs
    match skipBlanks rest with
    | ',' :: rest => elements fuel (x :: done) rest
    | ']' :: rest => pure ((x :: done).reverse, rest)
    | _ => none

/-- The members of an object up to its closing brace, put behind those read already. -/
def members (fuel : Nat) (done : List (Option String × Json)) (cs : List Char) :
    Option (List (Option String × Json) × List Char) :=
  match fuel with
  | 0 => none
  | fuel + 1 => do
    let rest ← expect '"' (skipBlanks cs)
    let (name, rest) ← stringToken rest
    let rest ← expect ':' (skipBlanks rest)
    let (x, rest) ← value fuel rest
    match skipBlanks rest with
    | ',' :: rest => members fuel ((name, x) :: done) rest
    | '\x7d' :: rest => pure (((name, x) :: done).reverse, rest)
    | _ => none

end

/-- The value that a text holds. Every second nested call takes a character, so twice the length of
the text is enough. -/
def parse (text : String) : Option Json :=
  let cs := text.toList
  match value (2 * cs.length + 2) cs with
  | some (v, rest) => if (skipBlanks rest).isEmpty then some v else none
  | none => none

end DebugBridge.Json
