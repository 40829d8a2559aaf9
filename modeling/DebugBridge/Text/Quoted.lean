import DebugBridge.Text.Extending
import DebugBridge.Text.Numeral
import DebugBridge.Text.Unprintable

/-!
# Quoted text

A text is shown inside a message between double quotes. A backslash, a double quote, and the control
characters with a short name are written with a backslash; a character that has no visible form, or
that would join the one before it, is written by its code point; all else stands for itself.
-/

namespace DebugBridge.Text

/-- The written form of one character between the quotes. -/
def quotedChar (c : Char) : List Char :=
  if c = '\x00' then ['\\', '0']
  else if c = '\t' then ['\\', 't']
  else if c = '\r' then ['\\', 'r']
  else if c = '\n' then ['\\', 'n']
  else if c = '\\' then ['\\', '\\']
  else if c = '"' then ['\\', '"']
  else if isExtending c || isUnprintable c then
    ['\\', 'u', '\x7b'] ++ Nat.toDigits 16 c.toNat ++ ['\x7d']
  else [c]

/-- A text between double quotes. -/
def quoted (s : String) : String :=
  String.ofList ('"' :: s.toList.flatMap quotedChar ++ ['"'])

end DebugBridge.Text
