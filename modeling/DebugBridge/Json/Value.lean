/-!
# JSON values

A value as it stands in a JSON text. Members of an object keep their order and may share a name.

A string in a JSON text is sound if every escaped half of a surrogate pair has its other half; only
sound strings have a text.
-/

namespace DebugBridge

/-- A JSON value. -/
inductive Json
  | null
  | bool (b : Bool)
  /-- A number written with digits alone. -/
  | natural (n : Nat)
  /-- A number with a sign, a fraction or an exponent, as it is written. -/
  | number (written : String)
  /-- A string with its text, if it is sound. -/
  | string (text : Option String)
  | array (elements : List Json)
  | object (members : List (Option String × Json))
  deriving Repr, Inhabited

namespace Json

/-- The string with a text. -/
def str (s : String) : Json := .string (some s)

/-- An object of named values. -/
def ofMembers (members : List (String × Json)) : Json :=
  .object (members.map fun (name, value) => (some name, value))

/-- A value that may be missing. -/
def ofOption (f : α → Json) : Option α → Json
  | none => .null
  | some a => f a

end Json

end DebugBridge
