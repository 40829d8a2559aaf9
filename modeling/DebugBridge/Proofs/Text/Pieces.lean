import DebugBridge.Text.Lines
import Mathlib.Data.List.DropRight
import Mathlib.Data.List.Infix

/-!
# Texts and their pieces

What is cut off the ends of a text, which lines and words it has, and which texts occur in it.

Results:
* `trim_trimRight`, blanks at the end may be cut off before;
* `ReadsLines.filterMap_append`, lines are read on their own, if it does not matter how they end;
* `filterMap_lines`, what is written one to a line is read one to a line;
* `words_cons`, the words of a text stand between its blanks;
* `contains_iff`, a string is found in another exactly if it stands between two others.
-/

namespace DebugBridge.Text

variable {cs ds : List Char} {c : Char}

/-! ## Blanks at the ends -/

theorem trimRight_eq_rdropWhile (cs : List Char) : trimRight cs = cs.rdropWhile isBlank := rfl

theorem trimRight_append_of_blank (h : ∀ d ∈ ds, isBlank d = true) :
    trimRight (cs ++ ds) = trimRight cs := by
  have hblank : ∀ d ∈ ds.reverse, isBlank d = true := fun d hd => h d (List.mem_reverse.1 hd)
  rw [trimRight, List.reverse_append, List.dropWhile_append_of_pos hblank, trimRight]

theorem trimRight_append_of_not_blank (h : ∃ d ∈ ds, isBlank d = false) (cs : List Char) :
    trimRight (cs ++ ds) = cs ++ trimRight ds := by
  obtain ⟨d, hd, hnot⟩ := h
  have hne : ds.reverse.dropWhile isBlank ≠ [] := by
    intro hnil
    rw [List.dropWhile_eq_nil_iff] at hnil
    rw [hnil d (List.mem_reverse.2 hd)] at hnot
    cases hnot
  rw [trimRight, List.reverse_append, List.dropWhile_append, if_neg (by simpa using hne),
    List.reverse_append, List.reverse_reverse, trimRight]

theorem trimRight_eq_self (h : ∀ d ∈ cs, isBlank d = false) : trimRight cs = cs :=
  List.rdropWhile_eq_self_iff.2 fun hne => by simpa using h _ (List.getLast_mem hne)

theorem trimRight_cons_of_not_blank (hc : isBlank c = false) (cs : List Char) :
    trimRight (c :: cs) = c :: trimRight cs := by
  by_cases hblank : ∀ d ∈ cs, isBlank d = true
  · have hnil : trimRight cs = [] := List.rdropWhile_eq_nil_iff.2 hblank
    have hsingle : trimRight [c] = [c] := by
      rw [trimRight_eq_rdropWhile, List.rdropWhile_singleton, if_neg (by simp [hc])]
    have hcut : trimRight ([c] ++ cs) = trimRight [c] := trimRight_append_of_blank hblank
    rw [hnil, ← hsingle]
    exact hcut
  · have hsome : ∃ d ∈ cs, isBlank d = false := by simpa using hblank
    exact trimRight_append_of_not_blank hsome [c]

theorem trimLeft_trimRight (cs : List Char) : trimLeft (trimRight cs) = trimRight (trimLeft cs) := by
  induction cs with
  | nil => rfl
  | cons c cs ih =>
    have hcons : c :: cs = [c] ++ cs := rfl
    by_cases hblank : ∀ d ∈ cs, isBlank d = true
    · rw [hcons, trimRight_append_of_blank hblank]
      cases hc : isBlank c with
      | true =>
        have hall : ∀ d ∈ [c] ++ cs, isBlank d = true := List.forall_mem_cons.2 ⟨hc, hblank⟩
        rw [trimRight_eq_rdropWhile, List.rdropWhile_singleton, if_pos hc, trimLeft, trimLeft,
          List.dropWhile_eq_nil_iff.2 hall]
        rfl
      | false =>
        have hkeep : trimLeft ([c] ++ cs) = [c] ++ cs := List.dropWhile_cons_of_neg (by simp [hc])
        rw [hkeep, trimRight_append_of_blank hblank, trimRight_eq_rdropWhile,
          List.rdropWhile_singleton, if_neg (by simp [hc])]
        exact List.dropWhile_cons_of_neg (by simp [hc])
    · have hsome : ∃ d ∈ cs, isBlank d = false := by simpa using hblank
      rw [hcons, trimRight_append_of_not_blank hsome]
      cases hc : isBlank c with
      | true =>
        have hdrop (l : List Char) : trimLeft ([c] ++ l) = trimLeft l := List.dropWhile_cons_of_pos hc
        rw [hdrop, hdrop, ih]
      | false =>
        have hkeep (l : List Char) : trimLeft ([c] ++ l) = [c] ++ l :=
          List.dropWhile_cons_of_neg (by simp [hc])
        rw [hkeep, hkeep, trimRight_append_of_not_blank hsome]

/-- Blanks at the end may be cut off before. -/
theorem trim_trimRight (cs : List Char) : trim (trimRight cs) = trim cs := by
  rw [trim, trimLeft_trimRight, trim]
  exact List.rdropWhile_idempotent isBlank _

/-- What stands between a first and a last character that are no blanks stays. -/
theorem trim_between {before after : List Char} {d : Char} (hbefore : ∀ c ∈ before, isBlank c = true)
    (hafter : ∀ c ∈ after, isBlank c = true) (hc : isBlank c = false) (hd : isBlank d = false)
    (middle : List Char) :
    trim (before ++ c :: (middle ++ d :: after)) = c :: (middle ++ [d]) := by
  have hleft : trimLeft (before ++ c :: (middle ++ d :: after)) = c :: middle ++ ([d] ++ after) := by
    rw [trimLeft, List.dropWhile_append_of_pos hbefore, List.dropWhile_cons_of_neg (by simp [hc])]
    rfl
  rw [trim, hleft, ← List.append_assoc, trimRight_append_of_blank hafter,
    trimRight_append_of_not_blank ⟨d, List.mem_singleton_self d, hd⟩, trimRight_eq_rdropWhile,
    List.rdropWhile_singleton, if_neg (by simp [hd])]
  rfl

/-- Only blanks are cut off. -/
theorem exists_trim (cs : List Char) : ∃ before after, (∀ c ∈ before, isBlank c = true) ∧
    (∀ c ∈ after, isBlank c = true) ∧ cs = before ++ (trim cs ++ after) := by
  refine ⟨cs.takeWhile isBlank, (trimLeft cs).rtakeWhile isBlank, fun c hc => List.mem_takeWhile_imp hc,
    fun c hc => List.mem_rtakeWhile_imp hc, ?_⟩
  have hright : trim cs ++ (trimLeft cs).rtakeWhile isBlank = trimLeft cs := by
    rw [trim, trimRight_eq_rdropWhile, List.rdropWhile_append_rtakeWhile]
  rw [hright]
  exact List.takeWhile_append_dropWhile.symm

theorem trimRight_dropReturn (cs : List Char) : trimRight (dropReturn cs) = trimRight cs := by
  rw [dropReturn]
  split
  · rename_i hlast
    obtain ⟨front, rfl⟩ := List.getLast?_eq_some_iff.1 hlast
    rw [List.dropLast_concat, trimRight_append_of_blank (List.all_eq_true.1 (by decide))]
  · rfl

theorem trim_dropReturn (cs : List Char) : trim (dropReturn cs) = trim cs := by
  rw [← trim_trimRight, trimRight_dropReturn, trim_trimRight]

theorem dropReturn_concat (cs : List Char) : dropReturn (cs ++ ['\r']) = cs := by
  rw [dropReturn, if_pos List.getLast?_concat, List.dropLast_concat]

/-! ## Lines -/

/-- The first line of a text, and the others. -/
theorem lines_cons (h : '\n' ∉ cs) (rest : List Char) :
    lines (cs ++ '\n' :: rest) = dropReturn cs :: lines rest := by
  obtain ⟨first, others, hrest⟩ := List.exists_cons_of_ne_nil (List.splitOn_ne_nil '\n' rest)
  have hparts : (cs ++ '\n' :: rest).splitOn '\n' = cs :: first :: others := by
    rw [List.splitOn_append_cons_self_of_not_mem h, hrest]
  simp only [lines, hparts, hrest, List.dropLast_cons_cons, List.map_cons, List.getLast?_cons_cons,
    List.cons_append]

/-- Strings that are joined with nothing between them. -/
theorem toList_join (parts : List String) : (join "" parts).toList = parts.flatMap String.toList := by
  have hjoined (pieces : List (List Char)) : [].intercalate pieces = pieces.flatten := by
    induction pieces with
    | nil => rfl
    | cons piece pieces ih =>
      cases pieces with
      | nil => simp
      | cons next pieces =>
        rw [List.intercalate_cons_cons, ih, List.append_nil]
        rfl
  rw [join, String.toList_intercalate, String.toList_empty, hjoined, List.flatMap_def]

/-- What is written one to a line is read one to a line. -/
theorem filterMap_lines {α β : Type} {read : List Char → Option β} {line : α → List Char}
    {written : α → String} {value : α → β} {xs : List α}
    (hwritten : ∀ x, (written x).toList = line x ++ ['\n']) (hline : ∀ x ∈ xs, '\n' ∉ line x)
    (hread : ∀ x ∈ xs, read (dropReturn (line x)) = some (value x)) :
    (lines (join "" (xs.map written)).toList).filterMap read = xs.map value := by
  rw [toList_join, List.flatMap_map]
  induction xs with
  | nil => rfl
  | cons x xs ih =>
    obtain ⟨hx, hline⟩ := List.forall_mem_cons.1 hline
    obtain ⟨hvalue, hread⟩ := List.forall_mem_cons.1 hread
    rw [List.flatMap_cons, hwritten, List.append_assoc, List.singleton_append, lines_cons hx,
      List.filterMap_cons_some hvalue, ih hline hread, List.map_cons]

/-- Is it all the same to a reader of lines how a line ends? It reads nothing from an empty line, and
does not see a carriage return at the end. -/
structure ReadsLines {β : Type} (read : List Char → Option β) : Prop where
  nil : read [] = none
  dropReturn : ∀ cs, read (dropReturn cs) = read cs

namespace ReadsLines

variable {β : Type} {read : List Char → Option β} (h : ReadsLines read)

include h

/-- What is read line by line is read from the pieces between the line feeds, each on its own. -/
theorem filterMap_lines_eq (cs : List Char) :
    (lines cs).filterMap read = (cs.splitOn '\n').filterMap read := by
  obtain ⟨pieces, rest, hsplit⟩ : ∃ pieces rest, cs.splitOn '\n' = pieces ++ [rest] :=
    ⟨_, _, (List.dropLast_concat_getLast (List.splitOn_ne_nil '\n' cs)).symm⟩
  have hended : (pieces.map Text.dropReturn).filterMap read = pieces.filterMap read := by
    rw [List.filterMap_map]
    exact List.filterMap_congr fun piece _ => h.dropReturn piece
  have hrest : (if rest.isEmpty then [] else [rest]).filterMap read = [rest].filterMap read := by
    cases rest with
    | nil => exact (List.filterMap_cons_none h.nil).symm
    | cons c rest => rfl
  simp only [lines, hsplit, List.dropLast_concat, List.getLast?_concat, Option.getD_some,
    List.filterMap_append, hended, hrest]

/-- Two texts with a line feed between them are read one after the other. -/
theorem filterMap_append (cs ds : List Char) :
    (lines (cs ++ '\n' :: ds)).filterMap read =
      (lines cs).filterMap read ++ (lines ds).filterMap read := by
  rw [h.filterMap_lines_eq, h.filterMap_lines_eq, h.filterMap_lines_eq,
    List.splitOn_append_cons_self, List.filterMap_append]

/-- A text without a line feed is read as one line. -/
theorem filterMap_line {line : List Char} (hline : '\n' ∉ line) :
    (lines line).filterMap read = (read line).toList := by
  rw [h.filterMap_lines_eq, List.splitOn_eq_singleton hline]
  cases hread : read line with
  | none => rw [List.filterMap_cons_none hread]; rfl
  | some value => rw [List.filterMap_cons_some hread]; rfl

/-- A line between two texts is read on its own, and they are read as if it were not there. -/
theorem filterMap_between {line ending : List Char} (hline : '\n' ∉ line)
    (hending : ending = ['\n'] ∨ ending = ['\r', '\n']) (cs ds : List Char) :
    (lines (cs ++ '\n' :: (line ++ (ending ++ ds)))).filterMap read =
      (lines cs).filterMap read ++ ((read line).toList ++ (lines ds).filterMap read) := by
  rw [h.filterMap_append]
  rcases hending with rfl | rfl
  · rw [List.singleton_append, h.filterMap_append, h.filterMap_line hline]
  · have hreturn : '\n' ∉ line ++ ['\r'] := by simpa using hline
    have hcut : line ++ (['\r', '\n'] ++ ds) = (line ++ ['\r']) ++ '\n' :: ds := by simp
    rw [hcut, h.filterMap_append, h.filterMap_line hreturn, ← h.dropReturn, dropReturn_concat]

end ReadsLines

/-! ## Words -/

/-- A blank parts the words on its sides. -/
theorem words_append_cons (hc : isBlank c = true) (cs ds : List Char) :
    words (cs ++ c :: ds) = words cs ++ words ds := by
  rw [words, List.splitOnP_append_cons cs ds hc, List.filter_append, words, words]

theorem words_dropReturn (cs : List Char) : words (dropReturn cs) = words cs := by
  rw [dropReturn]
  split
  · rename_i hlast
    obtain ⟨front, rfl⟩ := List.getLast?_eq_some_iff.1 hlast
    have hnil : words [] = [] := by decide
    rw [List.dropLast_concat, words_append_cons (by decide), hnil, List.append_nil]
  · rfl

theorem words_of_blankless (hne : cs ≠ []) (h : ∀ d ∈ cs, isBlank d = false) : words cs = [cs] := by
  rw [words, List.splitOnP_eq_singleton h, List.filter_cons_of_pos (by simpa using hne),
    List.filter_nil]

/-- The first word of a text, and the others. -/
theorem words_cons (hne : cs ≠ []) (h : ∀ d ∈ cs, isBlank d = false) (hc : isBlank c = true)
    (rest : List Char) : words (cs ++ c :: rest) = cs :: words rest := by
  rw [words_append_cons hc, words_of_blankless hne h, List.singleton_append]

/-! ## Occurrences -/

/-- A text occurs in another exactly if it stands between two others. -/
theorem occursIn_iff : occursIn ds cs = true ↔ ds <:+: cs := by
  induction cs with
  | nil => simp [occursIn]
  | cons c cs ih => rw [occursIn, Bool.or_eq_true, List.isPrefixOf_iff_prefix, ih, List.infix_cons_iff]

/-- A string occurs in another. -/
def Occurs (part s : String) : Prop := part.toList <:+: s.toList

theorem contains_iff {s part : String} : contains s part = true ↔ Occurs part s := occursIn_iff

instance (part s : String) : Decidable (Occurs part s) := decidable_of_iff _ contains_iff

/-- What does not end in a blank occurs where blanks have been cut off the end. -/
theorem occurs_trimmedRight_iff {s part : String} {front : List Char}
    (hpart : part.toList = front ++ [c]) (hc : isBlank c = false) :
    Occurs part (trimmedRight s) ↔ Occurs part s := by
  rw [Occurs, Occurs, trimmedRight, String.toList_ofList]
  constructor
  · exact fun h => h.trans (List.rdropWhile_prefix isBlank _).isInfix
  · rintro ⟨before, after, hs⟩
    have hcons : before ++ (front ++ [c]) ++ after = (before ++ front) ++ c :: after := by simp
    refine ⟨before, trimRight after, ?_⟩
    rw [← hs, hpart, hcons, trimRight_append_of_not_blank ⟨c, List.mem_cons_self, hc⟩,
      trimRight_cons_of_not_blank hc]
    simp

end DebugBridge.Text
