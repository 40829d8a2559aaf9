import DebugBridge.Registry.Basic
import DebugBridge.Text.Lines
import DebugBridge.Text.Numeral

/-!
# Listings in payloads

The daemon lists devices, process numbers and forwards as text, one to a line. A line that is not of
the expected form is skipped and never affects another line. Beside each reader stands the writer
that produces the daemon's form.
-/

namespace DebugBridge.Listing

/-! ## Devices -/

/-- A device's line: serial, tab, state. -/
def device? (line : List Char) : Option Listed :=
  match (Text.trimRight line).splitOn '\t' with
  | serial :: state :: _ =>
    if serial.isEmpty then none
    else some ⟨String.ofList serial, .ofToken (String.ofList (Text.trim state))⟩
  | _ => none

/-- Reads a device list. -/
def devices (payload : String) : List Listed := (Text.lines payload.toList).filterMap device?

/-- Writes a device list of serials and state tokens. -/
def writeDevices (list : List (String × String)) : String :=
  Text.join "" (list.map fun (serial, token) => s!"{serial}\t{token}\n")

/-! ## Process numbers -/

/-- A line with a process number. -/
def pid? (line : List Char) : Option UInt32 := Text.word? (String.ofList (Text.trim line))

/-- Reads a list of process numbers. -/
def pids (payload : String) : List UInt32 := (Text.lines payload.toList).filterMap pid?

/-- Writes a list of process numbers. -/
def writePids (list : List UInt32) : String :=
  Text.join "" (list.map fun pid => s!"{pid.toNat}\n")

/-! ## Forwards -/

/-- A forward's line: serial, local and remote end between blanks. -/
def forward? (line : List Char) : Option ForwardRule :=
  match Text.words line with
  | serial :: localSpec :: remoteSpec :: _ =>
    some ⟨String.ofList serial, String.ofList localSpec, String.ofList remoteSpec⟩
  | _ => none

/-- Reads a forward table. -/
def forwards (payload : String) : List ForwardRule := (Text.lines payload.toList).filterMap forward?

/-- Writes a forward table. -/
def writeForwards (rules : List ForwardRule) : String :=
  Text.join "" (rules.map fun r => s!"{r.serial} {r.localSpec} {r.remoteSpec}\n")

end DebugBridge.Listing
