import DebugBridge.Shell.Words
import DebugBridge.Text.Lines
import Mathlib.Data.List.Basic

/-!
# Words and quotes

A text without quotes falls into the pieces between its blanks, and a text between quotes is a word,
blanks and all. So a text without quotes can be handed to a command as one word by putting it between
quotes, and only a text without blanks can be handed to it as it is.

Results:
* `wordsFrom_quoted`, a text between quotes is one word;
* `commandWords_of_unquoted`, a text without quotes falls into its pieces;
* `mem_pieces_self`, a text is one of its own pieces only if it has no blank.
-/

namespace DebugBridge.Shell

variable {cs : List Char} {text : String}

/-- Inside quotes, all but a quote is taken in. -/
theorem wordsFrom_quoted (h : '"' ∉ cs) (word rest : List Char) :
    wordsFrom (some word) true (cs ++ '"' :: rest) =
      wordsFrom (some (cs.reverse ++ word)) false rest := by
  induction cs generalizing word with
  | nil => rw [List.nil_append, wordsFrom, if_pos rfl]; rfl
  | cons c cs ih =>
    obtain ⟨hc, hcs⟩ := not_or.1 (mt List.mem_cons.2 h)
    rw [List.cons_append, wordsFrom, if_neg (Ne.symm hc), if_neg (by simp), Option.getD_some, ih hcs,
      List.reverse_cons, List.append_assoc, List.singleton_append]

/-- The word that has been begun with these characters, if it has been begun. -/
def begun : List Char → Option (List Char)
  | [] => none
  | c :: word => some (c :: word)

theorem getD_begun (word : List Char) : (begun word).getD [] = word := by
  cases word <;> rfl

theorem toList_begun (word : List Char) :
    ((begun word).map List.reverse).toList = [word.reverse].filter (! ·.isEmpty) := by
  cases word <;> simp [begun]

theorem modifyHead_nil_append (pieces : List (List Char)) :
    pieces.modifyHead (([] : List Char).reverse ++ ·) = pieces := by
  cases pieces <;> rfl

/-- Outside quotes, a text falls into its pieces, and the first of them goes on with the word that has
been begun. -/
theorem wordsFrom_begun (h : '"' ∉ cs) (word : List Char) :
    wordsFrom (begun word) false cs =
      ((cs.splitOn ' ').modifyHead (word.reverse ++ ·)).filter (! ·.isEmpty) := by
  induction cs generalizing word with
  | nil =>
    rw [wordsFrom, toList_begun, List.splitOn_nil, List.modifyHead_cons, List.append_nil]
  | cons c cs ih =>
    obtain ⟨hc, hcs⟩ := not_or.1 (mt List.mem_cons.2 h)
    rw [wordsFrom, if_neg (Ne.symm hc), List.splitOn_cons_eq_if_modifyHead, getD_begun]
    by_cases hblank : c = ' '
    · have hrest := ih hcs []
      rw [begun, modifyHead_nil_append] at hrest
      rw [if_pos ⟨hblank, rfl⟩, if_pos (beq_iff_eq.2 hblank), toList_begun, hrest,
        List.modifyHead_cons, List.append_nil, ← List.filter_append, List.singleton_append]
    · have hrest := ih hcs (c :: word)
      rw [begun, List.reverse_cons] at hrest
      rw [if_neg (fun hand => hblank hand.1), if_neg (fun heq => hblank (beq_iff_eq.1 heq)),
        List.modifyHead_modifyHead, hrest]
      simp only [List.append_assoc, List.singleton_append, Function.comp_def]

/-- A text without quotes falls into its pieces. -/
theorem commandWords_of_unquoted (h : '"' ∉ text.toList) : commandWords text = pieces text := by
  have hwords := wordsFrom_begun h []
  rw [begun, modifyHead_nil_append] at hwords
  rw [commandWords, hwords, pieces]

theorem pieces_of_blankless (hne : text ≠ "") (h : ' ' ∉ text.toList) : pieces text = [text] := by
  rw [pieces, List.splitOn_eq_singleton h, List.filter_cons_of_pos (by simpa using hne),
    List.filter_nil, List.map_singleton, String.ofList_toList]

/-- A text is one of its own pieces only if it has no blank. -/
theorem mem_pieces_self (hne : text ≠ "") : text ∈ pieces text ↔ ' ' ∉ text.toList := by
  refine ⟨fun h => ?_, fun h => by rw [pieces_of_blankless hne h]; exact List.mem_singleton_self _⟩
  obtain ⟨piece, hpiece, rfl⟩ := List.mem_map.1 h
  rw [String.toList_ofList]
  exact Text.not_mem_of_mem_splitOn (List.mem_of_mem_filter hpiece)

end DebugBridge.Shell
