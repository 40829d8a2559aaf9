import DebugBridge.Text.Utf8

/-!
# Lines of a byte stream

Output arrives in chunks that may end anywhere. A splitter holds back the bytes after the last line
feed, and gives out each line as soon as its line feed has come. A line is decoded leniently, without
one carriage return at its end.

`linesOf` is what the lines are whatever the chunks. A byte string consists of its terminated lines and
an open line, which is empty if the string ends in a line feed.

Results: `feed_of_openLine`, a splitter that holds back the open line of what it has seen gives the
terminated lines of what it sees, and holds back the open line again.
-/

namespace DebugBridge

/-- The text of a line, without one carriage return at its end. -/
def decodeLine (line : Bytes) : String :=
  Utf8.lossy (if line.getLast? = some 13 then line.dropLast else line)

/-- The bytes of a line that has not ended yet. -/
structure LineSplitter where
  /-- The bytes held back; no line feed is among them. -/
  pending : Bytes
  deriving Repr, DecidableEq, Inhabited

namespace LineSplitter

/-- Nothing held back. -/
def empty : LineSplitter := ⟨[]⟩

/-- Takes in a chunk, and gives the lines that it completes. Line feeds are looked for in the chunk
only. -/
def feed (sp : LineSplitter) (chunk : Bytes) : List String × LineSplitter :=
  let parts := (chunk.splitOn 10).modifyHead (sp.pending ++ ·)
  (parts.dropLast.map decodeLine, ⟨parts.getLast?.getD []⟩)

/-- Gives out what is held back as a last line, if there is anything. -/
def finish (sp : LineSplitter) : Option String × LineSplitter :=
  if sp.pending.isEmpty then (none, sp) else (some (decodeLine sp.pending), empty)

end LineSplitter

/-- The lines of a byte string that end in a line feed. -/
def terminatedLines (b : Bytes) : List String := (b.splitOn 10).dropLast.map decodeLine

/-- What follows the last line feed of a byte string. -/
def openLine (b : Bytes) : Bytes := (b.splitOn 10).getLast?.getD []

/-- The lines of a byte string; what follows the last line feed is a line unless it is empty. -/
def linesOf (b : Bytes) : List String :=
  terminatedLines b ++ if (openLine b).isEmpty then [] else [decodeLine (openLine b)]

/-! ## Cutting in two steps -/

theorem splitOn_append (a b : Bytes) :
    (a ++ b).splitOn 10 = (a.splitOn 10).dropLast ++ (b.splitOn 10).modifyHead (openLine a ++ ·) := by
  induction a with
  | nil =>
    have hid : ((openLine [] ++ ·) : Bytes → Bytes) = id := by
      funext b
      rw [openLine, List.splitOn_nil]
      rfl
    rw [hid, List.modifyHead_id, List.splitOn_nil]
    rfl
  | cons x a ih =>
    have hne : a.splitOn 10 ≠ [] := List.splitOn_ne_nil 10 a
    rw [List.cons_append, List.splitOn_cons_eq_if_modifyHead, List.splitOn_cons_eq_if_modifyHead, ih]
    obtain ⟨first, parts, hparts⟩ := List.exists_cons_of_ne_nil hne
    by_cases hx : (x == 10) = true
    · simp [openLine, List.splitOn_cons_eq_if_modifyHead, hx, hparts]
    · cases parts with
      | nil =>
        simp [openLine, List.splitOn_cons_eq_if_modifyHead, hx, hparts, List.modifyHead_modifyHead,
          Function.comp_def]
      | cons => simp [openLine, List.splitOn_cons_eq_if_modifyHead, hx, hparts]

theorem terminatedLines_prefix_append (a b : Bytes) :
    terminatedLines a <+: terminatedLines (a ++ b) := by
  have hne : (b.splitOn 10).modifyHead (openLine a ++ ·) ≠ [] := by
    simp [List.splitOn_ne_nil]
  rw [terminatedLines, terminatedLines, splitOn_append, List.dropLast_append_of_ne_nil hne,
    List.map_append]
  exact List.prefix_append _ _

theorem terminatedLines_prefix_linesOf (b : Bytes) : terminatedLines b <+: linesOf b :=
  List.prefix_append _ _

namespace LineSplitter

/-- **Splitter step.** A splitter has given the terminated lines of the bytes `seen`, and holds back
their open line. Then after a chunk it has given those of `seen` and the chunk, and holds back their
open line. -/
theorem feed_of_openLine {sp : LineSplitter} {seen : Bytes} (h : sp.pending = openLine seen)
    (chunk : Bytes) :
    terminatedLines seen ++ (sp.feed chunk).1 = terminatedLines (seen ++ chunk) ∧
      (sp.feed chunk).2.pending = openLine (seen ++ chunk) := by
  have hne : (chunk.splitOn 10).modifyHead (sp.pending ++ ·) ≠ [] := by
    simp [List.splitOn_ne_nil]
  have hlast := List.getLast?_eq_some_getLast hne
  rw [terminatedLines, terminatedLines, openLine, splitOn_append, ← h,
    List.dropLast_append_of_ne_nil hne, List.map_append, List.getLast?_append, hlast, Option.some_or,
    ← hlast]
  exact ⟨rfl, rfl⟩

theorem linesOf_of_openLine {sp : LineSplitter} {seen : Bytes} (h : sp.pending = openLine seen) :
    linesOf seen = terminatedLines seen ++ sp.finish.1.toList := by
  rw [linesOf, ← h, finish]
  split <;> rfl

end LineSplitter

end DebugBridge
