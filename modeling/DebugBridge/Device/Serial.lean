import DebugBridge.Text.DecimalDigit
import DebugBridge.Text.Lines
import DebugBridge.Text.Numeral

/-!
# Serials of emulators

A device is known by its serial, which is any text. The serial of an emulator is `emulator-` followed
by decimal digits, which name the port of its console.
-/

namespace DebugBridge.Serial

/-- The digits of an emulator's serial. They may be of any script. -/
def emulatorDigits? (serial : String) : Option String :=
  match Text.after? "emulator-".toList serial.toList with
  | some digits =>
    if ! digits.isEmpty && digits.all Text.isDecimalDigit then some (String.ofList digits) else none
  | none => none

/-- Has the serial the form of an emulator's? -/
def isEmulator (serial : String) : Bool := (emulatorDigits? serial).isSome

/-- The console port in an emulator's serial; none if the digits are not a 16-bit number in ASCII. -/
def consolePort? (serial : String) : Option UInt16 :=
  (emulatorDigits? serial).bind Text.port?

end DebugBridge.Serial
