import DebugBridge.Text.Numeral
import DebugBridge.Text.Quoted
import DebugBridge.Text.Utf8
import DebugBridge.Wire.Stream

/-!
# Framing of requests and answers

A request is its length in bytes, as four upper-case hexadecimal digits, and the service asked for. A
payload from the daemon is framed the same way, with digits of either case. An answer begins with the
token `OKAY`, or with `FAIL` and a framed message.
-/

namespace DebugBridge

/-- The longest service that four hexadecimal digits can announce. -/
def longestRequest : Nat := 0xFFFF

/-- The token of success. -/
def okayToken : Bytes := Bytes.ofString "OKAY"

/-- The token of failure. -/
def failToken : Bytes := Bytes.ofString "FAIL"

/-- How the daemon answers a request. -/
inductive Status
  | okay
  | fail (message : String)
  deriving Repr, DecidableEq, Inhabited

/-- A request for a service. -/
def encodeRequest (service : String) : Except Error Bytes :=
  let body := Bytes.ofString service
  let n := body.length
  if longestRequest < n then
    .error (.protocol s!"service request of {n} bytes exceeds {longestRequest} byte limit")
  else .ok (Bytes.ofString (String.ofList (Text.fourDigits Text.hexDigitUpper n)) ++ body)

/-- The length that four hexadecimal digits announce. -/
def lengthPrefix? (digits : Bytes) : Except Error Nat :=
  let chars := digits.map fun b => Char.ofNat b.toNat
  let value := if chars.length = 4 then Text.hexadecimal? chars else none
  match value with
  | some n => .ok n
  | none => .error (.protocol ("invalid length prefix " ++ Text.quoted (Utf8.lossy digits)))

namespace Read

/-- Reads the length before a payload. -/
def length : Read Nat := do
  let digits ← exactly 4
  match lengthPrefix? digits with
  | .ok n => pure n
  | .error e => fail e

/-- Reads a payload with its length before it. -/
def frame : Read Bytes := do
  let n ← length
  exactly n

/-- Reads the daemon's answer to a request. -/
def status : Read Status := do
  let token ← exactly 4
  if token = okayToken then pure .okay
  else if token = failToken then
    let message ← frame
    pure (.fail (Utf8.lossy message))
  else fail (.protocol ("unexpected status token " ++ Text.quoted (Utf8.lossy token)))

theorem status_of_take? {s rest : Stream} (h : s.take? okayToken.length = some (okayToken, rest)) :
    status.run s = (.ok .okay, rest) := by
  have hread : (exactly 4).run s = (.ok okayToken, rest) := exactly_of_take? h
  rw [status, run_bind_ok hread]
  rfl

end Read

end DebugBridge
