/-!
# Words of a command

A device's shell splits a command into words. Blanks separate words, but not inside double quotes; the
quotes themselves are not part of a word. No other character has a meaning here, so this describes
commands whose characters have none.
-/

namespace DebugBridge.Shell

/-- The words of a command. `word` is the word that has been begun, if any (last character first);
`quoted` tells whether a double quote is open. -/
def wordsFrom (word : Option (List Char)) (quoted : Bool) : List Char → List (List Char)
  | [] => (word.map List.reverse).toList
  | c :: rest =>
    if c = '"' then wordsFrom (some (word.getD [])) (! quoted) rest
    else if c = ' ' ∧ ! quoted then (word.map List.reverse).toList ++ wordsFrom none false rest
    else wordsFrom (some (c :: word.getD [])) quoted rest

/-- The words of a command. -/
def commandWords (command : String) : List String :=
  (wordsFrom none false command.toList).map String.ofList

/-- Characters without a meaning to a shell: letters and digits, whatever is beyond ASCII, and a few
signs. -/
def isOrdinary (c : Char) : Bool :=
  c.isAlphanum || 0x80 ≤ c.toNat || ['.', '_', '-', '/'].contains c

/-- The pieces of a text between its blanks. -/
def pieces (text : String) : List String :=
  ((text.toList.splitOn ' ').filter (! ·.isEmpty)).map String.ofList

end DebugBridge.Shell
