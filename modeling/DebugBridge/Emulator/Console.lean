import DebugBridge.Text.Lines
import DebugBridge.Wire.Connection

/-!
# Emulator consoles

The console of an emulator speaks in lines. It begins with a banner; each reply ends in a line `OK`,
or in a line that begins with `KO` and tells why a command was refused. A banner may ask for a token,
which is then sent before anything else.
-/

namespace DebugBridge.Console

/-- A line without its line feed and a carriage return before it. -/
def bareLine (line : Bytes) : Bytes := if line.getLast? = some 13 then line.dropLast else line

/-- Reads a line; none at the end. Bytes after the last line feed are a line of their own. -/
def line (s : Stream) : Except Stall (Option Bytes) × Stream :=
  let all := s.bytes
  match all.dropWhile (· != 10) with
  | _ :: rest => (.ok (some (bareLine (all.takeWhile (· != 10)))), .ofBytes rest s.ending)
  | [] =>
    match s.ending with
    | .silent => (.error .waiting, s)
    | .closed => (.ok (if all.isEmpty then none else some all), s.exhausted)

theorem size_line {s s' : Stream} {l : Bytes} (h : line s = (.ok (some l), s')) :
    s'.size < s.size := by
  simp only [line] at h
  split at h
  · rename_i x rest hd
    cases h
    have := congrArg List.length hd
    have hle := (List.dropWhile_suffix (fun x : UInt8 => x != 10) (l := s.bytes)).length_le
    simp only [Stream.size, Stream.bytes, Stream.ofBytes, List.flatten_nil, List.append_nil,
      List.length_cons] at this hle ⊢
    omega
  · split at h
    · cases h
    · split at h
      · cases h
      · cases h
        rename_i hne
        simp only [Stream.size, Stream.exhausted, Stream.bytes, List.flatten_nil, List.append_nil,
          List.length_nil]
        exact List.length_pos_iff.2 (by simpa [Stream.bytes] using hne)

/-- Reads lines up to one that ends a reply. -/
def reply (s : Stream) (found : List String) : Except Stall (List String) × Stream :=
  match _h : line s with
  | (.error e, s') => (.error e, s')
  | (.ok none, s') =>
    (.error (.failed (.protocol "emulator console closed the connection")), s')
  | (.ok (some bytes), s') =>
    match Utf8.text? bytes with
    | .error defect => (.error (.failed (.io defect.message)), s')
    | .ok text =>
      let shown := Text.trimRight text.toList
      if shown = ['O', 'K'] then (.ok found, s')
      else match Text.after? ['K', 'O'] shown with
        | some rest =>
          let reason := String.ofList (Text.trim (rest.dropWhile (· == ':')))
          (.error (.failed (.protocol s!"emulator console refused: {reason}")), s')
        | none => reply s' (found ++ [String.ofList shown])
termination_by s.size
decreasing_by exact size_line _h

/-- The token in a token file: its text without the blanks around it, if there is any. -/
def token? (file : Option Bytes) : Option String :=
  match file with
  | none => none
  | some content =>
    match Utf8.text? content with
    | .error _ => none
    | .ok text => if (Text.trimmed text).isEmpty then none else some (Text.trimmed text)

variable {D S : Type} [Daemon D S]

/-- Waits for a reply. -/
def awaitReply : Call D S (List String) :=
  Call.within "waiting for emulator console" fun s => reply s []

/-- Sends a command. -/
def command (text : String) : Call D S Unit := Call.send (Bytes.ofString (text ++ "\r\n"))

/-- Asks for the name of the virtual device and takes leave. The name is the first line of the reply
that is not blank. -/
def askName : Call D S (Option String) := do
  command "avd name"
  let answer ← awaitReply
  command "quit"
  pure ((answer.map Text.trimmed).find? (! ·.isEmpty))

/-- Asks a console for the name of its virtual device, with the token file given as far as there is
one. -/
def avdName (tokenFile : Option Bytes) : Net D (Option String) := Net.briefly do
  let banner ← awaitReply
  if banner.any (Text.contains · "Authentication required") then
    match token? tokenFile with
    | none => pure none
    | some token => do
      command s!"auth {token}"
      let _ ← awaitReply
      askName
  else askName

end DebugBridge.Console
