import DebugBridge.Shell.Receiver

/-!
# What the package manager says

The package manager ends with a line that begins with `Success`, or with a line
`Failure [reason]`. Of several such lines the last one counts; output without any counts as success.
-/

namespace DebugBridge

/-- What the package manager's output says so far. -/
structure Verdict where
  /-- The reason of the failure, if the last marker is one. -/
  failure : Option String
  /-- Was there a marker at all? -/
  sawMarker : Bool
  deriving Repr, DecidableEq, Inhabited

/-- A marker on a line. -/
inductive Marker
  | success
  | failure (reason : String)
  deriving Repr, DecidableEq

/-- The marker on a line, if it is one. The reason stands in brackets, after at least one blank, and
extends to the bracket that ends the line. -/
def Marker.of? (line : String) : Option Marker :=
  if (Text.afterString? "Success" line).isSome then some .success
  else match Text.after? "Failure".toList line.toList with
    | some rest =>
      match rest.takeWhile Text.isBlank, rest.dropWhile Text.isBlank with
      | _ :: _, '[' :: inner =>
        match inner.getLast? with
        | some ']' =>
          let reason := inner.dropLast
          if reason.contains '\n' then none else some (.failure (String.ofList reason))
        | _ => none
      | _, _ => none
    | none => none

/-- What it is for a line to be a marker. -/
inductive IsMarker : String → Marker → Prop
  | success (rest : String) : IsMarker ("Success" ++ rest) .success
  /-- The reason may have brackets of its own. -/
  | failure {blanks reason : String} (hne : blanks ≠ "")
    (hblank : ∀ c ∈ blanks.toList, Text.isBlank c) :
    IsMarker ("Failure" ++ blanks ++ "[" ++ reason ++ "]") (.failure reason)

/-- The last marker among some lines, if there is one. -/
def IsLastMarker (lines : List String) (marker : Marker) : Prop :=
  ∃ before line after, lines = before ++ line :: after ∧ IsMarker line marker ∧
    ∀ l ∈ after, ∀ other, ¬ IsMarker l other

namespace Verdict

/-- Nothing said. -/
def none : Verdict := ⟨Option.none, false⟩

/-- Takes in one line. -/
def line (v : Verdict) (text : String) : Verdict :=
  match Marker.of? text with
  | some .success => ⟨Option.none, true⟩
  | some (.failure reason) => ⟨some reason, true⟩
  | Option.none => v

/-- Takes in lines. -/
def lines (v : Verdict) (batch : List String) : Verdict := batch.foldl line v

end Verdict

/-- Reads the package manager's output. -/
def Receiver.verdict : Receiver Verdict := .patient Verdict.lines

end DebugBridge
