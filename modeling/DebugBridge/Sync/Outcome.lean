import DebugBridge.Error

/-!
# Outcomes of transfers

A push or pull ends with a code and perhaps a message. As a result of a call, an outcome other than
success is an error that carries the message, or else the words for the code.
-/

namespace DebugBridge

/-- How a push or pull ended. -/
structure Outcome where
  /-- What happened. -/
  code : TransferCode
  /-- More about it. -/
  message : Option String
  deriving Repr, DecidableEq, Inhabited

namespace Outcome

/-- Success. -/
def success : Outcome := ⟨.ok, none⟩

/-- Another outcome, with a message. -/
def because (code : TransferCode) (message : String) : Outcome := ⟨code, some message⟩

/-- Was it a success? -/
def isOk (o : Outcome) : Bool := o.code == .ok

/-- The outcome as the result of a call. -/
def toResult (o : Outcome) : Except Error Unit :=
  if o.isOk then .ok () else .error (.syncFailed o.code (o.message.getD o.code.text))

/-- The outcome of a transfer that an error broke off. -/
def ofError (e : Error) : Outcome :=
  because
    (match e with
      | .timeout _ => .timeout
      | .protocol _ => .protocolError
      | _ => .transferError)
    e.message

end Outcome

end DebugBridge
