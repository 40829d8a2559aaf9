import DebugBridge.Text.Numeral

/-!
# Reading from the front of a text

A reader takes what it reads off the front of a text and gives the rest, or gives nothing if the text
does not begin with what it reads.
-/

namespace DebugBridge.Text

/-- A reader of a text's front. -/
abbrev Reader (α : Type) := List Char → Option (α × List Char)

/-- What follows a token. -/
def expect (token : Char) : List Char → Option (List Char)
  | c :: cs => if c = token then some cs else none
  | [] => none

/-- At least one digit. -/
def someDigits : Reader (List Char) := fun cs =>
  match spanDigits cs with
  | ([], _) => none
  | (ds, rest) => some (ds, rest)

end DebugBridge.Text
