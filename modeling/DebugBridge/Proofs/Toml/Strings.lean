import DebugBridge.Toml.Printer

/-!
# Strings are read back

In whichever of the four forms a string is written, it is read back, whatever comes behind it but
another quote. On one line each character stands for itself or is an escape (`Written`), and is read
alone. Over several lines quotes are read in runs: no run in a text is longer than two, so the first one
of three is the end, and the quotes that the text ends in are taken off its front
(`closing?_of_le`, `closing?_replicate`).

Results: `basicBody_flatMap`, `literalBody_append`, `longBasicBody_longBasicChars`,
`longLiteralBody_append`, `string_writeString`.
-/

namespace DebugBridge.Toml

/-! ## Characters as they are written between double quotes -/

/-- What is written for a character between double quotes: itself, or an escape. -/
inductive Written (c : Char) : List Char → Prop
  | plain (hplain : isPlain c = true) (hquote : c ≠ '"') (hslash : c ≠ '\\') : Written c [c]
  | escape {x : Char} {w : List Char} (hread : ∀ rest, escape? (x :: w ++ rest) = some (c, rest))
    (hblank : isBlank x = false) (hfeed : x ≠ '\n') (hreturn : x ≠ '\r') :
    Written c ('\\' :: x :: w)

/-- A control character by its number. -/
theorem escape?_escapeCode {c : Char} (h : isControl c = true) (rest : List Char) :
    escape? ('u' :: Text.fourDigits Text.hexDigitUpper c.toNat ++ rest) = some (c, rest) := by
  have hsmall : c.toNat < 0x80 := by
    simp only [isControl, Bool.or_eq_true, Bool.and_eq_true, decide_eq_true_eq, beq_iff_eq] at h
    omega
  have hscalar : scalar? (Text.fourDigits Text.hexDigitUpper c.toNat) = some c := by
    have hvalid : c.toNat.isValidChar := c.valid
    rw [scalar?, Text.hexadecimal?_fourDigits (by omega), Option.bind_some, if_pos hvalid,
      Char.ofNat_toNat]
  simp only [Text.fourDigits, List.cons_append, List.nil_append, escape?]
  rw [← Text.fourDigits, hscalar]
  rfl

theorem written_basicChar (c : Char) : Written c (basicChar c) := by
  unfold basicChar
  split
  · subst c; exact .escape (fun _ => rfl) rfl (by decide) (by decide)
  split
  · subst c; exact .escape (fun _ => rfl) rfl (by decide) (by decide)
  split
  · subst c; exact .escape (fun _ => rfl) rfl (by decide) (by decide)
  split
  · subst c; exact .escape (fun _ => rfl) rfl (by decide) (by decide)
  split
  · subst c; exact .escape (fun _ => rfl) rfl (by decide) (by decide)
  split
  · subst c; exact .escape (fun _ => rfl) rfl (by decide) (by decide)
  split
  · subst c; exact .escape (fun _ => rfl) rfl (by decide) (by decide)
  split
  · rename_i hcontrol
    exact .escape (escape?_escapeCode hcontrol) rfl (by decide) (by decide)
  · rename_i htab hfeed _ _ hquote hslash hcontrol
    refine .plain ?_ hquote hslash
    simp only [isControl, isPlain, Bool.or_eq_true, Bool.and_eq_true, decide_eq_true_eq, bne_iff_ne,
      beq_iff_eq] at hcontrol ⊢
    grind

variable {c quote : Char} {cs w rest : List Char}

/-! ## On one line -/

theorem basicBody_written (h : Written c w) (rest : List Char) :
    basicBody (w ++ rest) = (basicBody rest).map fun (t, r) => (c :: t, r) := by
  cases h with
  | plain hplain hquote hslash =>
    rw [List.singleton_append, basicBody.eq_4 _ _ hquote hslash, if_pos hplain]
  | escape hread =>
    rw [List.cons_append, basicBody]
    split <;> rename_i hs <;> rw [hread] at hs <;> cases hs
    rfl

/-- The text between double quotes. -/
theorem basicBody_flatMap (cs rest : List Char) :
    basicBody (cs.flatMap basicChar ++ '"' :: rest) = some (cs, rest) := by
  induction cs with
  | nil => rw [List.flatMap_nil, List.nil_append, basicBody]
  | cons c cs ih =>
    rw [List.flatMap_cons, List.append_assoc, basicBody_written (written_basicChar c), ih]
    rfl

/-- The text between single quotes. -/
theorem literalBody_append (h : ∀ c ∈ cs, isPlain c = true ∧ c ≠ '\'') (rest : List Char) :
    literalBody (cs ++ '\'' :: rest) = some (cs, rest) := by
  induction cs with
  | nil => rw [List.nil_append, literalBody]
  | cons c cs ih =>
    obtain ⟨⟨hplain, hquote⟩, hcs⟩ := List.forall_mem_cons.1 h
    rw [List.cons_append, literalBody, if_pos hplain, ih hcs]
    · rfl
    · exact hquote

/-! ## Runs of quotes -/

/-- A run of at most two quotes does not end a text. -/
theorem closing?_of_le {q : Nat} (hq : q ≤ 2) (hhead : w.head? ≠ some quote) :
    closing? quote (List.replicate q quote ++ w) = none := by
  have hrun : ((List.replicate q quote ++ w).takeWhile (· == quote)).length = q := by
    rw [List.takeWhile_append_of_pos (by simp)]
    cases w with
    | nil => simp
    | cons x w => simp_all
  rw [closing?, hrun]
  exact if_pos (by omega)

/-- Three quotes and up to two more end a text, to which the two belong. -/
theorem closing?_replicate {q : Nat} (hq : q ≤ 2) (hhead : rest.head? ≠ some quote) :
    closing? quote (List.replicate q quote ++ (List.replicate 3 quote ++ rest)) =
      some (List.replicate q quote, rest) := by
  have hrun : ((List.replicate q quote ++ (List.replicate 3 quote ++ rest)).takeWhile
      (· == quote)).length = q + 3 := by
    rw [List.takeWhile_append_of_pos (by simp), List.takeWhile_append_of_pos (by simp)]
    cases rest with
    | nil => simp
    | cons x rest => simp_all
  have hextra : min (q + 3 - 3) 2 = q := by omega
  rw [closing?, hrun, if_neg (by omega), hextra, ← List.append_assoc, List.replicate_append_replicate]
  show some (_, (_ : List Char).drop (q + 3)) = _
  rw [List.drop_left' (by simp)]

/-! ## Over several lines, between double quotes -/

theorem lineEnd?_cons (hfeed : c ≠ '\n') (hreturn : c ≠ '\r') : lineEnd? (c :: rest) = none := by
  unfold lineEnd?
  split <;> simp_all

/-- A character that stands for itself, where the text does not end. -/
theorem longBasicBody_plain (hopen : closing? '"' (c :: rest) = none)
    (hplain : isPlain c = true ∨ c = '\n') (hslash : c ≠ '\\') :
    longBasicBody (c :: rest) = (longBasicBody rest).map fun (t, r) => (c :: t, r) := by
  have hreturn : c ≠ '\r' := by
    rintro rfl
    revert hplain
    decide
  rw [longBasicBody.eq_def, hopen]
  simp only
  split
  · simp_all
  · simp_all
  · simp_all
  · rename_i hcons
    cases hcons
    rw [if_pos (by simpa using hplain)]

/-- Up to two quotes before something else. -/
theorem longBasicBody_replicate {q : Nat} (hq : q ≤ 2) (hhead : w.head? ≠ some '"') :
    longBasicBody (List.replicate q '"' ++ w) =
      (longBasicBody w).map fun (t, r) => (List.replicate q '"' ++ t, r) := by
  induction q with
  | zero => simp
  | succ q ih =>
    have hopen : closing? '"' ('"' :: (List.replicate q '"' ++ w)) = none := closing?_of_le hq hhead
    rw [List.replicate_succ, List.cons_append,
      longBasicBody_plain hopen (.inl (by decide)) (by decide), ih (by omega), Option.map_map]
    rfl

/-- A character as it is written, where it is no quote. -/
theorem longBasicBody_written (h : Written c w) (rest : List Char) :
    longBasicBody (w ++ rest) = (longBasicBody rest).map fun (t, r) => (c :: t, r) := by
  cases h with
  | plain hplain hquote hslash =>
    have hopen : closing? '"' (c :: rest) = none :=
      closing?_of_le (q := 0) (by omega) (by simpa using hquote)
    exact longBasicBody_plain hopen (.inl hplain) hslash
  | @escape x w hread hblank hfeed hreturn =>
    have hopen : closing? '"' ('\\' :: (x :: w ++ rest)) = none :=
      closing?_of_le (q := 0) (by omega) (by simp)
    have hgoes : continuation? (x :: w ++ rest) = none := by
      rw [continuation?, List.cons_append, List.dropWhile_cons_of_neg (by simp [hblank]),
        lineEnd?_cons hfeed hreturn]
      rfl
    rw [List.cons_append, longBasicBody.eq_def, hopen]
    simp only
    split
    · simp_all
    · split <;> rename_i hs <;> rw [hread] at hs <;> cases hs
      rfl

theorem head?_basicChar (c : Char) (rest : List Char) : (basicChar c ++ rest).head? ≠ some '"' := by
  have hwritten := written_basicChar c
  revert hwritten
  generalize basicChar c = w
  rintro (⟨-, hquote, -⟩ | -)
  · simpa using hquote
  · simp

/-- The text between three double quotes, in which some quotes stand already. -/
theorem longBasicBody_longBasicChars (cs : List Char) (hrest : rest.head? ≠ some '"') {q : Nat} (hq : q ≤ 2) :
    longBasicBody (List.replicate q '"' ++ (longBasicChars q cs ++ (List.replicate 3 '"' ++ rest))) =
      some (List.replicate q '"' ++ cs, rest) := by
  induction cs generalizing q with
  | nil =>
    rw [longBasicChars, List.nil_append, longBasicBody.eq_def, closing?_replicate hq hrest,
      List.append_nil]
  | cons c cs ih =>
    -- A character that is written by itself ends the run of quotes before it.
    have hself {w : List Char} (hhead : ∀ rest, (w ++ rest).head? ≠ some '"')
        (hbody : ∀ rest, longBasicBody (w ++ rest) =
          (longBasicBody rest).map fun (t, r) => (c :: t, r)) :
        longBasicBody (List.replicate q '"' ++
            ((w ++ longBasicChars 0 cs) ++ (List.replicate 3 '"' ++ rest))) =
          some (List.replicate q '"' ++ c :: cs, rest) := by
      have hnext := ih (q := 0) (by omega)
      rw [List.replicate_zero, List.nil_append, List.nil_append] at hnext
      rw [List.append_assoc, longBasicBody_replicate hq (hhead _), hbody, hnext]
      rfl
    rw [longBasicChars]
    split
    · subst c
      split
      · have hnext := ih (q := q + 1) (by omega)
        rw [List.replicate_succ', List.append_assoc, List.append_assoc] at hnext
        exact hnext
      · exact hself (head?_basicChar '"') (longBasicBody_written (written_basicChar '"'))
    split
    · subst c
      refine hself (w := ['\n']) (by simp) fun rest => ?_
      exact longBasicBody_plain (closing?_of_le (q := 0) (by omega) (by simp)) (.inr rfl) (by decide)
    · exact hself (head?_basicChar c) (longBasicBody_written (written_basicChar c))

/-! ## Over several lines, between single quotes -/

theorem longLiteralBody_plain (hopen : closing? '\'' (c :: rest) = none)
    (hplain : isPlain c = true ∨ c = '\n') :
    longLiteralBody (c :: rest) = (longLiteralBody rest).map fun (t, r) => (c :: t, r) := by
  have hreturn : c ≠ '\r' := by
    rintro rfl
    revert hplain
    decide
  rw [longLiteralBody.eq_def, hopen]
  simp only
  split
  · simp_all
  · simp_all
  · rename_i hcons
    cases hcons
    rw [if_pos (by simpa using hplain)]

theorem longLiteralBody_replicate {q : Nat} (hq : q ≤ 2) (hhead : w.head? ≠ some '\'') :
    longLiteralBody (List.replicate q '\'' ++ w) =
      (longLiteralBody w).map fun (t, r) => (List.replicate q '\'' ++ t, r) := by
  induction q with
  | zero => simp
  | succ q ih =>
    have hopen : closing? '\'' ('\'' :: (List.replicate q '\'' ++ w)) = none := closing?_of_le hq hhead
    rw [List.replicate_succ, List.cons_append, longLiteralBody_plain hopen (.inl (by decide)),
      ih (by omega), Option.map_map]
    rfl

/-- The longest run is no shorter than one that is there already. -/
theorem le_longestRun_go (c : Char) (best run : Nat) (cs : List Char) :
    max best run ≤ longestRun.go c best run cs := by
  induction cs generalizing best run with
  | nil => exact Nat.le_refl _
  | cons x cs ih =>
    rw [longestRun.go]
    split
    · have := ih best (run + 1)
      omega
    · have := ih (max best run) 0
      omega

/-- The text between three single quotes, in which some quotes stand already. -/
theorem longLiteralBody_append (hcs : ∀ c ∈ cs, isPlain c = true ∨ c = '\n')
    (hrest : rest.head? ≠ some '\'') {best q : Nat} (hruns : longestRun.go '\'' best q cs ≤ 2) :
    longLiteralBody (List.replicate q '\'' ++ (cs ++ (List.replicate 3 '\'' ++ rest))) =
      some (List.replicate q '\'' ++ cs, rest) := by
  have hq : q ≤ 2 := by
    have := le_longestRun_go '\'' best q cs
    omega
  induction cs generalizing best q with
  | nil =>
    rw [List.nil_append, longLiteralBody.eq_def, closing?_replicate hq hrest, List.append_nil]
  | cons c cs ih =>
    obtain ⟨hc, hcs'⟩ := List.forall_mem_cons.1 hcs
    rw [longestRun.go] at hruns
    split at hruns
    · subst c
      have hmore := le_longestRun_go '\'' best (q + 1) cs
      have hnext := ih hcs' hruns (by omega)
      rw [List.replicate_succ', List.append_assoc, List.append_assoc] at hnext
      exact hnext
    · rename_i hquote
      have hopen {w : List Char} : closing? '\'' (c :: w) = none :=
        closing?_of_le (q := 0) (by omega) (by simpa using hquote)
      have hnext := ih hcs' hruns (by omega)
      rw [List.replicate_zero, List.nil_append, List.nil_append] at hnext
      rw [List.cons_append, longLiteralBody_replicate hq (by simpa using hquote),
        longLiteralBody_plain hopen hc, hnext]
      rfl

/-! ## All forms -/

theorem isPlain_of_isControl (h : isControl c = false) : isPlain c = true ∨ c = '\n' := by
  simp only [isControl, isPlain, Bool.or_eq_true, Bool.and_eq_true, Bool.or_eq_false_iff,
    Bool.and_eq_false_iff, decide_eq_true_eq, decide_eq_false_iff_not, bne_iff_ne, bne_eq_false_iff_eq,
    beq_iff_eq, beq_eq_false_iff_ne] at h ⊢
  grind

/-- Three quotes open a text over several lines. -/
theorem string_longBasic (rest : List Char) :
    string ('"' :: '"' :: '"' :: rest) =
      (longBasicBody (dropLineEnd rest)).map fun (t, r) => (String.ofList t, r) := rfl

theorem string_longLiteral (rest : List Char) :
    string ('\'' :: '\'' :: '\'' :: rest) =
      (longLiteralBody (dropLineEnd rest)).map fun (t, r) => (String.ofList t, r) := rfl

/-- What is left of a text without the line feed that opened it. -/
theorem dropLineEnd_openingLine (h : '\n' ∉ cs → lineEnd? w = none) :
    dropLineEnd (openingLine cs ++ w) = w := by
  rw [openingLine]
  by_cases hlines : '\n' ∈ cs
  · rw [if_pos (by simpa using hlines)]
    rfl
  · rw [if_neg (by simpa using hlines), List.nil_append, dropLineEnd, h hlines]
    rfl

theorem lineEnd?_longBasicChars (hlines : '\n' ∉ cs) (rest : List Char) :
    lineEnd? (longBasicChars 0 cs ++ '"' :: rest) = none := by
  cases cs with
  | nil => rfl
  | cons c cs =>
    have hfeed : c ≠ '\n' := fun hc => hlines (hc ▸ List.mem_cons_self)
    rw [longBasicChars]
    split
    · rfl
    have hwritten := written_basicChar c
    revert hwritten
    generalize basicChar c = w
    rintro (⟨hplain, -, -⟩ | -)
    · refine lineEnd?_cons hfeed ?_
      rintro rfl
      revert hplain
      decide
    · rfl

/-- What is known of a text by the form in which it is written. -/
theorem quoting_cases (cs : List Char) :
    Quoting.of cs = .basic ∨
    (Quoting.of cs = .literal ∧ cs ≠ [] ∧ ∀ c ∈ cs, isPlain c = true ∧ c ≠ '\'') ∨
    Quoting.of cs = .longBasic ∨
    (Quoting.of cs = .longLiteral ∧ (∀ c ∈ cs, isPlain c = true ∨ c = '\n') ∧
      longestRun '\'' cs ≤ 2) := by
  have hbare (h : (! cs.any isControl) = true) : ∀ c ∈ cs, isPlain c = true ∨ c = '\n' := by
    intro c hc
    apply isPlain_of_isControl
    simp only [Bool.not_eq_true', List.any_eq_false] at h
    simpa using h c hc
  rw [Quoting.of]
  split
  · exact .inl rfl
  rename_i hbasic
  split
  · rename_i hliteral
    simp only [Bool.and_eq_true] at hliteral
    obtain ⟨⟨hcontrol, hlines⟩, hquote⟩ := hliteral
    refine .inr (.inl ⟨rfl, ?_, fun c hc => ⟨?_, ?_⟩⟩)
    · rintro rfl
      exact hbasic rfl
    · rcases hbare hcontrol c hc with hplain | rfl
      · exact hplain
      · simp_all
    · rintro rfl
      simp_all
  split
  · exact .inr (.inr (.inl rfl))
  split
  · rename_i hruns
    simp only [Bool.and_eq_true, decide_eq_true_eq] at hruns
    exact .inr (.inr (.inr ⟨rfl, hbare hruns.1, hruns.2⟩))
  split
  · exact .inl rfl
  · exact .inr (.inr (.inl rfl))

/-- **Strings are read back.** A string is read as it was, whatever it holds. -/
theorem string_writeString (cs : List Char) (hdouble : rest.head? ≠ some '"')
    (hsingle : rest.head? ≠ some '\'') :
    string (writeString cs ++ rest) = some (String.ofList cs, rest) := by
  rcases quoting_cases cs with h | ⟨h, hne, hcs⟩ | h | ⟨h, hcs, hruns⟩
  · have hbody := basicBody_flatMap cs rest
    have hwritten : writeString cs ++ rest = '"' :: (cs.flatMap basicChar ++ '"' :: rest) := by
      simp only [writeString, h]
      simp
    -- An empty text between double quotes must not be taken for three of them.
    have hshort : string ('"' :: (cs.flatMap basicChar ++ '"' :: rest)) =
        shortString ('"' :: (cs.flatMap basicChar ++ '"' :: rest)) := by
      cases cs with
      | nil =>
        cases rest with
        | nil => rfl
        | cons c rest =>
          have hc : c ≠ '"' := by simpa using hdouble
          unfold string
          split
          · simp_all
          · simp_all
          · rfl
      | cons c cs =>
        have hhead := head?_basicChar c (cs.flatMap basicChar ++ '"' :: rest)
        rw [List.flatMap_cons, List.append_assoc]
        generalize basicChar c ++ (cs.flatMap basicChar ++ '"' :: rest) = w at hhead
        unfold string
        split
        · rename_i heq
          cases heq
          exact absurd rfl hhead
        · rename_i heq
          cases heq
        · rfl
    rw [hwritten, hshort, shortString, hbody]
    rfl
  · obtain ⟨c, cs, rfl⟩ := List.exists_cons_of_ne_nil hne
    have hc := (hcs c List.mem_cons_self).2
    have hwritten : writeString (c :: cs) ++ rest = '\'' :: (c :: cs ++ '\'' :: rest) := by
      simp only [writeString, h]
      simp
    have hshort : string ('\'' :: (c :: cs ++ '\'' :: rest)) =
        shortString ('\'' :: (c :: cs ++ '\'' :: rest)) := by
      unfold string
      split
      · simp_all
      · simp_all
      · rfl
    rw [hwritten, hshort, shortString, literalBody_append hcs]
    rfl
  · have hwritten : writeString cs ++ rest = '"' :: '"' :: '"' :: (openingLine cs ++
        (longBasicChars 0 cs ++ (List.replicate 3 '"' ++ rest))) := by
      simp only [writeString, h]
      simp [List.replicate_succ]
    have hbody := longBasicBody_longBasicChars cs hdouble (q := 0) (by omega)
    have hnone (hlines : '\n' ∉ cs) :
        lineEnd? (longBasicChars 0 cs ++ (List.replicate 3 '"' ++ rest)) = none :=
      lineEnd?_longBasicChars hlines _
    rw [List.replicate_zero, List.nil_append, List.nil_append] at hbody
    rw [hwritten, string_longBasic, dropLineEnd_openingLine hnone, hbody]
    rfl
  · have hwritten : writeString cs ++ rest = '\'' :: '\'' :: '\'' :: (openingLine cs ++
        (cs ++ (List.replicate 3 '\'' ++ rest))) := by
      simp only [writeString, h]
      simp [List.replicate_succ]
    have hruns : longestRun.go '\'' 0 0 cs ≤ 2 := hruns
    have hbody := longLiteralBody_append hcs hsingle hruns
    rw [List.replicate_zero, List.nil_append, List.nil_append] at hbody
    have hnone (hlines : '\n' ∉ cs) : lineEnd? (cs ++ (List.replicate 3 '\'' ++ rest)) = none := by
      cases cs with
      | nil => rfl
      | cons c cs =>
        refine lineEnd?_cons (fun hc => hlines (hc ▸ List.mem_cons_self)) ?_
        rintro rfl
        exact absurd (hcs '\r' List.mem_cons_self) (by decide)
    rw [hwritten, string_longLiteral, dropLineEnd_openingLine hnone, hbody]
    rfl

end DebugBridge.Toml
