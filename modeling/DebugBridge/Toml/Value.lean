/-!
# TOML values

The value of a key in a TOML document. Of fractions and moments only the spelling is kept.
-/

namespace DebugBridge

/-- A value without parts. -/
inductive Scalar
  | string (text : String)
  | integer (n : Int)
  | boolean (b : Bool)
  deriving Repr, DecidableEq, Inhabited

/-- A TOML value. -/
inductive Toml
  | scalar (s : Scalar)
  /-- A number with a fraction or an exponent, infinity, or no number. -/
  | float (written : String)
  /-- A date, a time of day, or both. -/
  | moment (written : String)
  | array (elements : List Toml)
  | table (entries : List (String × Toml))
  deriving Repr, Inhabited

end DebugBridge
