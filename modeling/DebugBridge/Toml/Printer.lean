import DebugBridge.Text.Lines
import DebugBridge.Toml.Strings
import DebugBridge.Toml.Value

/-!
# Writing TOML documents

A document of named sections is written with a header for each section and a line for each of its
fields. A string takes the first of these forms that needs no escape: double quotes, single quotes,
three double quotes, three single quotes. If each needs one, it stands between double quotes with
escapes, three of them if it has several lines.

A tab makes no form unfit, but between double quotes it is written as an escape.
-/

namespace DebugBridge.Toml

/-! ## Strings -/

/-- Is it a character that only an escape can write? Tab and line feed are not. -/
def isControl (c : Char) : Bool :=
  (c.toNat < 0x20 && c != '\t' && c != '\n') || c.toNat == 0x7F

/-- The length of the longest run of a character. -/
def longestRun (c : Char) (cs : List Char) : Nat :=
  go 0 0 cs
where
  /-- The longest run, given that of the text before and the run that the text continues. -/
  go (best run : Nat) : List Char → Nat
    | [] => max best run
    | x :: rest => if x = c then go best (run + 1) rest else go (max best run) 0 rest

/-- Four hexadecimal digits for a control character. -/
def escapeCode (c : Char) : List Char :=
  ['\\', 'u'] ++ Text.fourDigits Text.hexDigitUpper c.toNat

/-- A character of a string between double quotes. -/
def basicChar (c : Char) : List Char :=
  if c = '\x08' then ['\\', 'b']
  else if c = '\t' then ['\\', 't']
  else if c = '\n' then ['\\', 'n']
  else if c = '\x0c' then ['\\', 'f']
  else if c = '\r' then ['\\', 'r']
  else if c = '"' then ['\\', '"']
  else if c = '\\' then ['\\', '\\']
  else if isControl c then escapeCode c
  else [c]

/-- The characters of a string between three double quotes, after so many double quotes in a row. Of
these every third one is escaped. -/
def longBasicChars (quotes : Nat) : List Char → List Char
  | [] => []
  | c :: rest =>
    if c = '"' then
      if quotes < 2 then '"' :: longBasicChars (quotes + 1) rest
      else basicChar c ++ longBasicChars 0 rest
    else if c = '\n' then '\n' :: longBasicChars 0 rest
    else basicChar c ++ longBasicChars 0 rest

/-- The form in which a string is written. -/
inductive Quoting
  | basic
  | literal
  | longBasic
  | longLiteral
  deriving Repr, DecidableEq

/-- The form for a string. -/
def Quoting.of (cs : List Char) : Quoting :=
  let bare := ! cs.any isControl
  let oneLine := ! cs.contains '\n'
  let unescaped := ! cs.contains '\\'
  if bare && oneLine && unescaped && ! cs.contains '"' then .basic
  else if bare && oneLine && ! cs.contains '\'' then .literal
  else if bare && unescaped && longestRun '"' cs ≤ 2 then .longBasic
  else if bare && longestRun '\'' cs ≤ 2 then .longLiteral
  else if oneLine then .basic
  else .longBasic

/-- The line feed after three opening quotes, which does not count; only a text of several lines has
it. -/
def openingLine (cs : List Char) : List Char := if cs.contains '\n' then ['\n'] else []

/-- A string. -/
def writeString (cs : List Char) : List Char :=
  match Quoting.of cs with
  | .basic => '"' :: cs.flatMap basicChar ++ ['"']
  | .literal => '\'' :: cs ++ ['\'']
  | .longBasic => ['"', '"', '"'] ++ openingLine cs ++ longBasicChars 0 cs ++ ['"', '"', '"']
  | .longLiteral => ['\'', '\'', '\''] ++ openingLine cs ++ cs ++ ['\'', '\'', '\'']

/-! ## Documents -/

/-- A scalar. -/
def writeScalar : Scalar → List Char
  | .string s => writeString s.toList
  | .integer n => (toString n).toList
  | .boolean b => if b then ['t', 'r', 'u', 'e'] else ['f', 'a', 'l', 's', 'e']

/-- A named group of fields. -/
structure Section where
  /-- Its name. -/
  name : String
  /-- Its fields by name. -/
  fields : List (String × Scalar)
  deriving Repr, DecidableEq

/-- The lines of a section. -/
def Section.write (s : Section) : List Char :=
  ['['] ++ s.name.toList ++ [']', '\n'] ++
    s.fields.flatMap fun (name, v) => name.toList ++ [' ', '=', ' '] ++ writeScalar v ++ ['\n']

/-- The lines of some sections, with an empty line between two of them. -/
def writeSections (ss : List Section) : List Char := ['\n'].intercalate (ss.map Section.write)

end DebugBridge.Toml
