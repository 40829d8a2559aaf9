import DebugBridge.Shell.Receiver

/-!
# Properties, mount points and process names in output

`getprop` prints a line `[name]: [value]` for each property. The name has no closing bracket; the
value extends to the bracket that ends the line, and has no line feed. Lines of another form are
skipped.
-/

namespace DebugBridge

/-- The text before a closing bracket that ends it, if it has no line feed. -/
def bracketed? (cs : List Char) : Option (List Char) :=
  if cs.getLast? = some ']' then
    let inner := cs.dropLast
    if inner.contains '\n' then none else some inner
  else none

/-- The property on a line. -/
def property? (line : String) : Option (String × String) :=
  match Text.trim line.toList with
  | '[' :: rest =>
    let name := rest.takeWhile (· != ']')
    match rest.dropWhile (· != ']') with
    | ']' :: ':' :: rest =>
      match Text.trimLeft rest with
      | '[' :: rest =>
        if name.isEmpty then none
        else (bracketed? rest).map fun value => (String.ofList name, String.ofList value)
      | _ => none
    | _ => none
  | _ => none

/-- Adds the properties of some lines; of two with one name the later counts. -/
def addProperties (d : Dict String) (lines : List String) : Dict String :=
  (lines.filterMap property?).foldl (fun d e => d.insert e.1 e.2) d

/-- Reads the output of `getprop`. -/
def Receiver.properties : Receiver (Dict String) := .patient addProperties

/-- The first line that is not blank, without the blanks around it. -/
def firstWord (lines : List String) : Option String :=
  (lines.map Text.trimmed).find? (! ·.isEmpty)

/-- The process name in a command line whose arguments end in NUL: the first argument, unless it is
blank or the process has no name yet. -/
def processName (raw : String) : Option String :=
  let name := String.ofList (Text.trim (raw.toList.takeWhile (· != '\x00')))
  if name.isEmpty || name == "<pre-initialized>" then none else some name

end DebugBridge
