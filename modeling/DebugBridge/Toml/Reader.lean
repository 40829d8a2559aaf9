import DebugBridge.Toml.Moment
import DebugBridge.Toml.Number
import DebugBridge.Toml.Strings
import DebugBridge.Toml.Table

/-!
# Reading TOML documents

A document is a sequence of statements, each on a line of its own: headers, keys with their values,
and nothing. A comment may end every line. A key has fewer than 80 parts, and fewer than 80 arrays
and inline tables may stand within each other.

`statements?` reads a document's statements, `parse` its table. Where the number of parts has no bound
of its own, a reader takes a budget: the most parts that it reads. The number of characters of a
document is a budget that nothing in it exceeds.
-/

namespace DebugBridge.Toml

open Text (Reader expect)

/-- One more than the most parts of a key, and than the deepest nesting of values. -/
def depthLimit : Nat := 80

/-- Without the blanks at the front. -/
def skipBlanks (cs : List Char) : List Char := cs.dropWhile isBlank

/-! ## Keys -/

/-- May the character stand in a key without quotes? -/
def isBare (c : Char) : Bool := c.isAlphanum || c == '_' || c == '-'

/-- One part of a key. -/
def keyPart : Reader String
  | '"' :: rest => shortString ('"' :: rest)
  | '\'' :: rest => shortString ('\'' :: rest)
  | cs =>
    match cs.takeWhile isBare with
    | [] => none
    | name => some (String.ofList name, cs.dropWhile isBare)

/-- The parts of a key, at most so many; blanks around them do not count. The last part is given
apart. -/
def keyWithin : Nat → Reader (List String × String)
  | 0, _ => none
  | budget + 1, cs =>
    match keyPart (skipBlanks cs) with
    | none => none
    | some (part, rest) =>
      match skipBlanks rest with
      | '.' :: more =>
        (keyWithin budget more).map fun ((path, last), rest) => ((part :: path, last), rest)
      | more => some (([], part), more)

/-- A key, with the path before its last part. -/
def key : Reader (List String × String) := keyWithin (depthLimit - 1)

/-! ## Values -/

/-- A comment, from its mark to the end of the line. -/
def comment : Reader String
  | '#' :: rest => some (String.ofList (rest.takeWhile isPlain), rest.dropWhile isPlain)
  | _ => none

theorem length_skipBlanks (cs : List Char) : (skipBlanks cs).length ≤ cs.length :=
  (List.dropWhile_suffix _).length_le

/-- What follows the blanks, comments and line ends at the front. A comment must end its line. -/
def skipLines (cs : List Char) : Option (List Char) :=
  match _hb : skipBlanks cs with
  | '#' :: more =>
    match _hl : lineEnd? (more.dropWhile isPlain) with
    | some rest => skipLines rest
    | none => none
  | other =>
    match _hl : lineEnd? other with
    | some rest => skipLines rest
    | none => some other
termination_by cs.length
decreasing_by
  · have h0 := length_lineEnd? _hl
    have h1 := length_skipBlanks cs
    have h2 := (List.dropWhile_suffix (l := more) isPlain).length_le
    simp only [_hb, List.length_cons] at h1
    omega
  · have h0 := length_lineEnd? _hl
    have h1 := length_skipBlanks cs
    simp only [_hb] at h1
    omega

/-- A number, a date or a time. -/
def numberOrMoment : Reader Toml := fun cs =>
  dateOrTime cs <|> fractional cs <|> special cs <|> integer cs

/-- A value without parts. -/
def plainValue : Reader Toml := fun cs =>
  match cs with
  | 't' :: 'r' :: 'u' :: 'e' :: rest => some (.scalar (.boolean true), rest)
  | 'f' :: 'a' :: 'l' :: 's' :: 'e' :: rest => some (.scalar (.boolean false), rest)
  | c :: _ =>
    if c = '"' ∨ c = '\'' then (string cs).map fun (s, rest) => (.scalar (.string s), rest)
    else if c.isDigit ∨ c = '+' ∨ c = '-' ∨ c = 'i' ∨ c = 'n' then numberOrMoment cs
    else none
  | [] => none

/-- The elements of an array after its opening bracket, put behind those read already. A comma may
follow the last one. -/
def arrayBody (element : Reader Toml) : Nat → List Toml → Reader (List Toml)
  | 0, _, _ => none
  | budget + 1, done, cs => do
    match ← skipLines cs with
    | ']' :: rest => pure (done.reverse, rest)
    | body =>
      let (v, rest) ← element body
      match ← skipLines rest with
      | ']' :: rest => pure ((v :: done).reverse, rest)
      | ',' :: rest => arrayBody element budget (v :: done) rest
      | _ => none

/-- A key and its value. -/
def pair (value : Reader Toml) : Reader (List String × String × Toml) := fun cs => do
  let ((path, k), rest) ← key cs
  let rest ← expect '=' rest
  let (v, rest) ← value (skipBlanks rest)
  pure ((path, k, v), rest)

/-- The keys of an inline table, of which there is at least one, put behind those read already. -/
def inlineBody (value : Reader Toml) :
    Nat → List (List String × String × Toml) → Reader (List (List String × String × Toml))
  | 0, _, _ => none
  | budget + 1, done, cs =>
    match pair value cs with
    | none => none
    | some (p, rest) =>
      match skipBlanks rest with
      | '\x7d' :: rest => some ((p :: done).reverse, rest)
      | ',' :: rest => inlineBody value budget (p :: done) rest
      | _ => none

/-- An inline table after its opening brace. -/
def inlineTable (value : Reader Toml) (budget : Nat) : Reader Toml := fun cs => do
  let (pairs, rest) ← match skipBlanks cs with
    | '\x7d' :: rest => pure ([], rest)
    | _ => inlineBody value budget [] cs
  let es ← Entries.setAll [] pairs
  pure (.table (builtEntries es), rest)

/-- A value with at most so many arrays and tables within each other. -/
def valueWithin (budget : Nat) : Nat → Reader Toml
  | 0 => plainValue
  | depth + 1 => fun cs =>
    match cs with
    | '[' :: rest =>
      (arrayBody (valueWithin budget depth) budget [] rest).map fun (vs, rest) => (.array vs, rest)
    | '\x7b' :: rest => inlineTable (valueWithin budget depth) budget rest
    | _ => plainValue cs

/-- A value. -/
def value (budget : Nat) : Reader Toml := valueWithin budget (depthLimit - 1)

/-! ## Statements -/

/-- What a line says. -/
inductive Statement
  | blank
  | comment (text : String)
  /-- `[path.name]` -/
  | table (path : List String) (name : String)
  /-- `[[path.name]]` -/
  | row (path : List String) (name : String)
  /-- `path.name = value` -/
  | entry (path : List String) (name : String) (value : Toml)
  deriving Repr, Inhabited

/-- What follows the end of a line, if nothing stands before it. -/
def endOfLine? : List Char → Option (List Char)
  | [] => some []
  | cs => lineEnd? cs

/-- What follows the end of a line, with blanks and a comment before it. -/
def trailing? (cs : List Char) : Option (List Char) :=
  match skipBlanks cs with
  | '#' :: more => endOfLine? (more.dropWhile isPlain)
  | other => endOfLine? other

/-- A statement after the blanks at its front. -/
def statement (budget : Nat) : Reader Statement
  | [] => none
  | '#' :: rest => do
    let (text, rest) ← comment ('#' :: rest)
    pure (.comment text, ← endOfLine? rest)
  | '[' :: '[' :: rest => do
    let ((path, name), rest) ← key rest
    let rest ← expect ']' rest
    let rest ← expect ']' rest
    pure (.row path name, ← trailing? rest)
  | '[' :: rest => do
    let ((path, name), rest) ← key rest
    let rest ← expect ']' rest
    pure (.table path name, ← trailing? rest)
  | cs =>
    match lineEnd? cs with
    | some rest => some (.blank, rest)
    | none => do
      let ((path, name, v), rest) ← pair (value budget) cs
      pure (.entry path name v, ← trailing? rest)

/-- The statements of a document, put behind those read already; at most so many. -/
def statementsWithin (budget : Nat) : Nat → List Statement → List Char → Option (List Statement)
  | 0, _, _ => none
  | left + 1, done, cs =>
    match skipBlanks cs with
    | [] => some done.reverse
    | body =>
      match statement budget body with
      | none => none
      | some (s, rest) => statementsWithin budget left (s :: done) rest

/-- The statements of a document. Each takes a character at least, so the number of characters is
enough of a budget. -/
def statements? (cs : List Char) : Option (List Statement) :=
  statementsWithin (cs.length + 1) (cs.length + 1) [] cs

/-! ## Documents -/

/-- The keys up to the next header, and the statements from there on. -/
def keysBefore : List Statement → List (List String × String × Toml) × List Statement
  | .entry path name v :: rest =>
    let (keys, more) := keysBefore rest
    ((path, name, v) :: keys, more)
  | .blank :: rest => keysBefore rest
  | .comment _ :: rest => keysBefore rest
  | rest => ([], rest)

theorem length_keysBefore (ss : List Statement) : (keysBefore ss).2.length ≤ ss.length := by
  fun_induction keysBefore ss <;> grind

/-- Adds what some statements say to a table, up to the next header their keys going to `es`
itself. -/
def Entries.addStatements (es : Entries) (ss : List Statement) : Option Entries :=
  match _h : ss with
  | .table path name :: rest =>
    (es.openTable path name (keysBefore rest).1).bind fun es =>
      addStatements es (keysBefore rest).2
  | .row path name :: rest =>
    (es.addRow path name (keysBefore rest).1).bind fun es =>
      addStatements es (keysBefore rest).2
  | .entry path name v :: rest => (es.set path name v).bind fun es => addStatements es rest
  | .blank :: rest => addStatements es rest
  | .comment _ :: rest => addStatements es rest
  | [] => some es
termination_by ss.length
decreasing_by
  all_goals
    have h0 := length_keysBefore rest
    simp only [List.length_cons]
    omega

/-- Without a byte order mark at the front. -/
def dropMark : List Char → List Char
  | '\uFEFF' :: rest => rest
  | cs => cs

/-- The table of a document. -/
def parse (text : String) : Option Toml :=
  (statements? (dropMark text.toList)).bind fun ss =>
    (Entries.addStatements [] ss).map fun es => .table (builtEntries es)

end DebugBridge.Toml
