import DebugBridge.Text.Blank

/-!
# Lines and fields

A text is cut into lines at each line feed. A carriage return before the line feed goes with it; one
at the end of a last line without a line feed stays. A text that ends in a line feed has no empty
line after it.

Results:
* `not_mem_of_mem_splitOn`, a piece does not have the separator;
* `after?_eq_some_iff`, what follows a lead is what is left of a text that begins with it.
-/

namespace DebugBridge.Text

/-- The pieces of a text do not have what separates them. -/
theorem not_mem_of_mem_splitOn {α : Type} [BEq α] [LawfulBEq α] {a : α} {xs piece : List α}
    (h : piece ∈ xs.splitOn a) : a ∉ piece := by
  induction xs generalizing piece with
  | nil =>
    rw [List.splitOn_nil, List.mem_singleton] at h
    subst h
    exact List.not_mem_nil
  | cons x xs ih =>
    rw [List.splitOn_cons_eq_if_modifyHead] at h
    split at h
    · rcases List.mem_cons.1 h with rfl | h
      · exact List.not_mem_nil
      · exact ih h
    · rename_i hx
      obtain ⟨first, pieces, hpieces⟩ := List.exists_cons_of_ne_nil (List.splitOn_ne_nil a xs)
      rw [hpieces, List.modifyHead_cons] at h
      rcases List.mem_cons.1 h with rfl | h
      · have hfirst : a ∉ first := ih (hpieces ▸ List.mem_cons_self)
        rw [List.mem_cons, not_or]
        exact ⟨fun ha => hx (beq_iff_eq.2 ha.symm), hfirst⟩
      · exact ih (hpieces ▸ List.mem_cons_of_mem _ h)

/-- A piece without one carriage return at its end. -/
def dropReturn (cs : List Char) : List Char :=
  if cs.getLast? = some '\r' then cs.dropLast else cs

/-- The lines of a text. -/
def lines (cs : List Char) : List (List Char) :=
  let parts := cs.splitOn '\n'
  let rest := parts.getLast?.getD []
  parts.dropLast.map dropReturn ++ if rest.isEmpty then [] else [rest]

/-- What stands before and after the first `c`, if there is one. -/
def cutAt (c : Char) (cs : List Char) : Option (List Char × List Char) :=
  match cs.dropWhile (· != c) with
  | [] => none
  | _ :: rest => some (cs.takeWhile (· != c), rest)

/-- What stands before and after the last `c`, if there is one. -/
def cutAtLast (c : Char) (cs : List Char) : Option (List Char × List Char) :=
  (cutAt c cs.reverse).map fun (after, before) => (before.reverse, after.reverse)

theorem cutAt_append {c : Char} {before : List Char} (h : c ∉ before) (after : List Char) :
    cutAt c (before ++ c :: after) = some (before, after) := by
  have hbefore : ∀ d ∈ before, (d != c) = true := by
    intro d hd
    rw [bne_iff_ne]
    rintro rfl
    exact h hd
  have hdrop : (before ++ c :: after).dropWhile (· != c) = c :: after := by
    rw [List.dropWhile_append_of_pos hbefore, List.dropWhile_cons_of_neg (by simp)]
  have htake : (before ++ c :: after).takeWhile (· != c) = before := by
    rw [List.takeWhile_append_of_pos hbefore, List.takeWhile_cons_of_neg (by simp),
      List.append_nil]
  rw [cutAt, hdrop, htake]

theorem cutAtLast_append {c : Char} {after : List Char} (h : c ∉ after) (before : List Char) :
    cutAtLast c (before ++ c :: after) = some (before, after) := by
  have hreverse : (before ++ c :: after).reverse = after.reverse ++ c :: before.reverse := by
    simp
  rw [cutAtLast, hreverse, cutAt_append (by simpa using h)]
  simp

theorem cutAtLast_of_not_mem {c : Char} {cs : List Char} (h : c ∉ cs) : cutAtLast c cs = none := by
  have hother : ∀ d ∈ cs.reverse, (d != c) = true := by
    intro d hd
    rw [bne_iff_ne]
    rintro rfl
    exact h (List.mem_reverse.1 hd)
  have hdrop : cs.reverse.dropWhile (· != c) = [] := by
    rw [← List.append_nil cs.reverse, List.dropWhile_append_of_pos hother, List.dropWhile_nil]
  rw [cutAtLast, cutAt, hdrop]
  rfl

/-- What follows `lead` in a text that begins with it. -/
def after? (lead cs : List Char) : Option (List Char) := lead.isPrefixOf? cs

/-- What follows `lead` in a string that begins with it. -/
def afterString? (lead s : String) : Option String :=
  (after? lead.toList s.toList).map String.ofList

theorem after?_eq_some_iff {lead cs rest : List Char} :
    after? lead cs = some rest ↔ cs = lead ++ rest := by
  induction lead generalizing cs with
  | nil =>
    show some cs = some rest ↔ cs = rest
    exact Option.some_inj
  | cons c lead ih =>
    cases cs with
    | nil =>
      show none = some rest ↔ [] = c :: (lead ++ rest)
      simp
    | cons d cs =>
      show (if c == d then after? lead cs else none) = some rest ↔ d :: cs = c :: (lead ++ rest)
      by_cases h : c = d
      · simp [h, ih]
      · simp [h, Ne.symm h]

theorem after?_append (lead rest : List Char) : after? lead (lead ++ rest) = some rest :=
  after?_eq_some_iff.2 rfl

theorem after?_eq_none {lead cs : List Char} (h : ¬ lead <+: cs) : after? lead cs = none := by
  cases hr : after? lead cs with
  | none => rfl
  | some rest => exact absurd ⟨rest, (after?_eq_some_iff.1 hr).symm⟩ h

theorem afterString?_append (lead rest : String) :
    afterString? lead (lead ++ rest) = some rest := by
  rw [afterString?, String.toList_append, after?_append]
  simp

theorem eq_append_of_afterString? {lead s rest : String} (h : afterString? lead s = some rest) :
    s = lead ++ rest := by
  obtain ⟨cs, hcs, rfl⟩ := Option.map_eq_some_iff.1 h
  rw [← String.toList_inj, String.toList_append, String.toList_ofList]
  exact after?_eq_some_iff.1 hcs

theorem afterString?_eq_none {lead s : String} (h : ¬ lead.toList <+: s.toList) :
    afterString? lead s = none := by
  rw [afterString?, after?_eq_none h]
  rfl

/-- What begins with one lead does not begin with another, unless one of them begins the other. -/
theorem afterString?_append_eq_none {lead other : String} (rest : String)
    (h : ¬ lead.toList <+: other.toList) (h' : ¬ other.toList <+: lead.toList) :
    afterString? lead (other ++ rest) = none := by
  apply afterString?_eq_none
  intro hp
  rw [String.toList_append] at hp
  rcases List.prefix_or_prefix_of_prefix hp (List.prefix_append _ _) with hp | hp
  · exact h hp
  · exact h' hp

/-- Does a text occur within another? -/
def occursIn (part : List Char) : List Char → Bool
  | [] => part.isEmpty
  | c :: cs => part.isPrefixOf (c :: cs) || occursIn part cs

/-- Does a string occur within another? -/
def contains (s part : String) : Bool := occursIn part.toList s.toList

/-- Strings joined with a separator. -/
def join (sep : String) (parts : List String) : String := sep.intercalate parts

end DebugBridge.Text
