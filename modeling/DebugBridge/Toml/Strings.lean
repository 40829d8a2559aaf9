import DebugBridge.Text.Reader

/-!
# Strings in TOML

A string stands between quotes of one of four kinds: double quotes with escapes, single quotes
without any, and three of either for a text over several lines. Tab and the visible characters may
stand for themselves. In a text over several lines a line feed right after the opening quotes does not
count, a carriage return before a line feed is dropped, up to two quotes may stand before the closing
ones, and a backslash at the end of a line takes the blanks and line ends after it away.
-/

namespace DebugBridge.Toml

open Text (Reader)

/-! ## Characters -/

/-- Is it a blank within a line? -/
def isBlank (c : Char) : Bool := c == ' ' || c == '\t'

/-- May the character stand for itself in comments and strings? -/
def isPlain (c : Char) : Bool := c == '\t' || (0x20 ≤ c.toNat && c.toNat != 0x7F)

/-- What follows a line end, if one is there. -/
def lineEnd? : List Char → Option (List Char)
  | '\n' :: rest => some rest
  | '\r' :: '\n' :: rest => some rest
  | _ => none

/-- Without a line end at the front. -/
def dropLineEnd (cs : List Char) : List Char := (lineEnd? cs).getD cs

/-! ## Escapes -/

/-- The character that hexadecimal digits name, unless they name a surrogate or nothing. -/
def scalar? (ds : List Char) : Option Char :=
  (Text.hexadecimal? ds).bind fun n => if n.isValidChar then some (Char.ofNat n) else none

/-- The character behind a letter after a backslash. -/
def letterEscape? (c : Char) : Option Char :=
  if c = 'b' then some '\x08'
  else if c = 't' then some '\t'
  else if c = 'n' then some '\n'
  else if c = 'f' then some '\x0c'
  else if c = 'r' then some '\r'
  else if c = '"' ∨ c = '\\' then some c
  else none

/-- The character that an escape after its backslash stands for. -/
def escape? : Reader Char
  | 'u' :: a :: b :: c :: d :: rest => (scalar? [a, b, c, d]).map fun x => (x, rest)
  | 'U' :: a :: b :: c :: d :: e :: f :: g :: h :: rest =>
    (scalar? [a, b, c, d, e, f, g, h]).map fun x => (x, rest)
  | c :: rest => (letterEscape? c).map fun x => (x, rest)
  | [] => none

theorem length_escape? {cs rest : List Char} {c : Char} (h : escape? cs = some (c, rest)) :
    rest.length < cs.length := by
  unfold escape? at h
  split at h
  all_goals first
    | (obtain ⟨x, -, hx⟩ := Option.map_eq_some_iff.1 h
       cases hx
       simp only [List.length_cons]
       omega)
    | cases h

/-! ## On one line -/

/-- The text after an opening double quote. -/
def basicBody (cs : List Char) : Option (List Char × List Char) :=
  match cs with
  | [] => none
  | '"' :: rest => some ([], rest)
  | '\\' :: body =>
    match _h : escape? body with
    | some (c, rest) => (basicBody rest).map fun (t, r) => (c :: t, r)
    | none => none
  | c :: rest => if isPlain c then (basicBody rest).map fun (t, r) => (c :: t, r) else none
termination_by cs.length
decreasing_by
  all_goals first
    | (have h0 := length_escape? _h
       simp only [List.length_cons]
       omega)
    | (simp only [List.length_cons]
       omega)

/-- The text after an opening single quote. -/
def literalBody : Reader (List Char)
  | [] => none
  | '\'' :: rest => some ([], rest)
  | c :: rest => if isPlain c then (literalBody rest).map fun (t, r) => (c :: t, r) else none

/-! ## Over several lines -/

/-- The closing quotes of a text over several lines, with up to two more quotes before them, which
belong to the text. -/
def closing? (quote : Char) (cs : List Char) : Option (List Char × List Char) :=
  let n := (cs.takeWhile (· == quote)).length
  if n < 3 then none
  else
    let extra := min (n - 3) 2
    some (List.replicate extra quote, cs.drop (extra + 3))

/-- What follows a backslash that ends its line, if it does: blanks and line ends do not count. -/
def continuation? (cs : List Char) : Option (List Char) :=
  (lineEnd? (cs.dropWhile isBlank)).map skip
where
  /-- Without the blanks and line ends at the front. -/
  skip : List Char → List Char
    | '\r' :: '\n' :: rest => skip rest
    | c :: rest => if isBlank c || c == '\n' then skip rest else c :: rest
    | [] => []

theorem length_skip (cs : List Char) : (continuation?.skip cs).length ≤ cs.length := by
  fun_induction continuation?.skip cs <;> grind

theorem length_lineEnd? {cs rest : List Char} (h : lineEnd? cs = some rest) :
    rest.length < cs.length := by
  unfold lineEnd? at h
  split at h <;> cases h <;> simp only [List.length_cons] <;> omega

theorem length_continuation? {cs rest : List Char} (h : continuation? cs = some rest) :
    rest.length < cs.length := by
  obtain ⟨r, hr, rfl⟩ := Option.map_eq_some_iff.1 h
  have h1 := length_lineEnd? hr
  have h2 := length_skip r
  have h3 := (List.dropWhile_suffix isBlank (l := cs)).length_le
  omega

/-- The text after three double quotes. -/
def longBasicBody (cs : List Char) : Option (List Char × List Char) :=
  match closing? '"' cs with
  | some done => some done
  | none =>
    match cs with
    | [] => none
    | '\\' :: body =>
      match _h : continuation? body with
      | some rest => longBasicBody rest
      | none =>
        match _h' : escape? body with
        | some (c, rest) => (longBasicBody rest).map fun (t, r) => (c :: t, r)
        | none => none
    | '\r' :: '\n' :: rest => (longBasicBody rest).map fun (t, r) => ('\n' :: t, r)
    | c :: rest =>
      if isPlain c || c == '\n' then (longBasicBody rest).map fun (t, r) => (c :: t, r) else none
termination_by cs.length
decreasing_by
  all_goals first
    | (have h0 := length_continuation? _h
       simp only [List.length_cons]
       omega)
    | (have h0 := length_escape? _h'
       simp only [List.length_cons]
       omega)
    | (simp only [List.length_cons]
       omega)

/-- The text after three single quotes. -/
def longLiteralBody (cs : List Char) : Option (List Char × List Char) :=
  match closing? '\'' cs with
  | some done => some done
  | none =>
    match cs with
    | [] => none
    | '\r' :: '\n' :: rest => (longLiteralBody rest).map fun (t, r) => ('\n' :: t, r)
    | c :: rest =>
      if isPlain c || c == '\n' then (longLiteralBody rest).map fun (t, r) => (c :: t, r)
      else none
termination_by cs.length

/-! ## All kinds -/

/-- A string on one line. -/
def shortString : Reader String
  | '"' :: rest => (basicBody rest).map fun (t, r) => (String.ofList t, r)
  | '\'' :: rest => (literalBody rest).map fun (t, r) => (String.ofList t, r)
  | _ => none

/-- A string of any kind. -/
def string : Reader String
  | '"' :: '"' :: '"' :: rest =>
    (longBasicBody (dropLineEnd rest)).map fun (t, r) => (String.ofList t, r)
  | '\'' :: '\'' :: '\'' :: rest =>
    (longLiteralBody (dropLineEnd rest)).map fun (t, r) => (String.ofList t, r)
  | cs => shortString cs

end DebugBridge.Toml
