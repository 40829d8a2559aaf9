import DebugBridge.Proofs.Toml.Strings
import DebugBridge.Toml.Reader

/-!
# Documents are read back

A document is a sequence of lines, each of which makes a statement whatever comes after it (`IsLine`). A
section with a bare name, whose fields have bare names of their own and values that fit, is read as the
table of its fields (`Section.Fits`). Of the numbers only those from zero up are considered here: their
digits alone must be taken for no date, no time and no fraction.

Results: `numberOrMoment_toString`, `value_writeScalar`, `statements?_lines`, `parse_document`.
-/

namespace DebugBridge.Toml

variable {ds more rest : List Char}

/-! ## Whole numbers -/

theorem digits?_eq_none {base : Nat} {value? : Char → Option Nat} {c : Char} (hc : value? c = none)
    {cs : List Char} (hmem : c ∈ cs) (start : Nat) : Text.digits? base value? start cs = none := by
  induction cs generalizing start with
  | nil => cases hmem
  | cons x cs ih =>
    rw [Text.digits?]
    rcases List.mem_cons.1 hmem with rfl | hmem
    · rw [hc]
    · cases value? x with
      | none => rfl
      | some d => exact ih hmem _

/-- Digits are taken off the front of digits before the end of a line. -/
theorem fixedDigits_digits {n low high v : Nat} (hds : ∀ c ∈ ds, c.isDigit = true)
    (h : fixedDigits n low high (ds ++ '\n' :: more) = some (v, rest)) :
    ∃ ds', (∀ c ∈ ds', c.isDigit = true) ∧ rest = ds' ++ '\n' :: more := by
  by_cases hn : n ≤ ds.length
  · refine ⟨ds.drop n, fun c hc => hds c (List.mem_of_mem_drop hc), ?_⟩
    rw [fixedDigits] at h
    split at h
    · split at h
      · split at h
        · cases h
          exact List.drop_append_of_le_length hn
        · cases h
      · cases h
    · cases h
  · have hfeed : '\n' ∈ (ds ++ '\n' :: more).take n := by
      rw [List.take_append]
      obtain ⟨k, hk⟩ := Nat.exists_eq_add_of_lt (Nat.not_le.1 hn)
      rw [show n - ds.length = k + 1 by omega, List.take_succ_cons]
      simp
    have hnone : Text.decimal? ((ds ++ '\n' :: more).take n) = none := by
      rw [Text.decimal?]
      split
      · rfl
      · exact digits?_eq_none rfl hfeed 0
    rw [fixedDigits] at h
    simp only [hnone] at h
    split at h <;> cases h

theorem expect_digits (token : Char) (htoken : token.isDigit = false) (hfeed : token ≠ '\n')
    (hds : ∀ c ∈ ds, c.isDigit = true) : Text.expect token (ds ++ '\n' :: more) = none := by
  cases ds with
  | nil => exact if_neg hfeed.symm
  | cons c ds =>
    have hc := hds c List.mem_cons_self
    refine if_neg ?_
    rintro rfl
    rw [htoken] at hc
    cases hc

/-- Digits alone are no date and no time. -/
theorem dateOrTime_digits (hds : ∀ c ∈ ds, c.isDigit = true) :
    dateOrTime (ds ++ '\n' :: more) = none := by
  have hdate : date (ds ++ '\n' :: more) = none := by
    rw [date]
    cases hread : fixedDigits 4 0 9999 (ds ++ '\n' :: more) with
    | none => rfl
    | some found =>
      obtain ⟨year, rest⟩ := found
      obtain ⟨ds', hds', rfl⟩ := fixedDigits_digits hds hread
      simp only [Option.bind_eq_bind, Option.bind_some, expect_digits '-' rfl (by decide) hds',
        Option.bind_none]
  have htime : time (ds ++ '\n' :: more) = none := by
    rw [time]
    cases hread : fixedDigits 2 0 23 (ds ++ '\n' :: more) with
    | none => rfl
    | some found =>
      obtain ⟨hour, rest⟩ := found
      obtain ⟨ds', hds', rfl⟩ := fixedDigits_digits hds hread
      simp only [Option.bind_eq_bind, Option.bind_some, expect_digits ':' rfl (by decide) hds',
        Option.bind_none]
  rw [dateOrTime, hdate, htime]
  rfl

theorem digitChar_ne_zero : ∀ n < 10, n ≠ 0 → n.digitChar ≠ '0' := by
  decide

/-- A number is a zero alone, or begins with another digit. -/
theorem exists_digits (n : Nat) : ∃ d ds, d.isDigit = true ∧ (∀ c ∈ ds, c.isDigit = true) ∧
    (d = '0' → ds = []) ∧ (toString n).toList = d :: ds := by
  have hhead : ∃ d ds, (d = '0' → ds = []) ∧ (toString n).toList = d :: ds := by
    rw [Nat.toString_eq_ofList_toDigits, String.toList_ofList]
    by_cases hzero : n = 0
    · subst hzero
      exact ⟨'0', [], fun _ => rfl, rfl⟩
    · suffices h : ∃ d ds, d ≠ '0' ∧ Nat.toDigits 10 n = d :: ds by
        obtain ⟨d, ds, hd, heq⟩ := h
        exact ⟨d, ds, fun h => absurd h hd, heq⟩
      induction n using Nat.strongRecOn with
      | ind n ih =>
        by_cases hsmall : n < 10
        · exact ⟨n.digitChar, [], digitChar_ne_zero n hsmall hzero, Nat.toDigits_of_lt_base hsmall⟩
        · obtain ⟨d, ds, hd, heq⟩ := ih (n / 10) (by omega) (by omega)
          refine ⟨d, ds ++ [(n % 10).digitChar], hd, ?_⟩
          rw [Nat.toDigits_of_base_le (by omega) (by omega), heq]
          rfl
  obtain ⟨d, ds, hzero, heq⟩ := hhead
  have hdigits : ∀ c ∈ d :: ds, c.isDigit = true := fun c hc =>
    Text.isDigit_of_mem_toString (heq ▸ hc)
  obtain ⟨hd, hds⟩ := List.forall_mem_cons.1 hdigits
  exact ⟨d, ds, hd, hds, hzero, heq⟩

theorem digitRun_go (hds : ∀ c ∈ ds, c.isDigit = true) (done : List Char) :
    digitRun.go Char.isDigit done (ds ++ '\n' :: more) = (done.reverse ++ ds, '\n' :: more) := by
  induction ds generalizing done with
  | nil => simp [digitRun.go]
  | cons c ds ih =>
    obtain ⟨hc, hds⟩ := List.forall_mem_cons.1 hds
    have hscore : c ≠ '_' := by
      rintro rfl
      cases hc
    have hstep : digitRun.go Char.isDigit done (c :: (ds ++ '\n' :: more)) =
        digitRun.go Char.isDigit (c :: done) (ds ++ '\n' :: more) := by
      rw [digitRun.go, if_pos hc]
      rintro c' rest' heq
      cases heq
      exact absurd rfl hscore
    rw [List.cons_append, hstep, ih hds]
    simp

/-- The digits of a number before the end of a line. -/
theorem wholeDigits_digits {d : Char} (hd : d.isDigit = true) (hds : ∀ c ∈ ds, c.isDigit = true)
    (hzero : d = '0' → ds = []) (more : List Char) :
    wholeDigits (d :: (ds ++ '\n' :: more)) = some (d :: ds, '\n' :: more) := by
  by_cases h : d = '0'
  · obtain rfl := hzero h
    subst h
    rfl
  · rw [wholeDigits]
    · rw [digitRun, if_pos hd, digitRun_go hds]
      rfl
    · rintro rest heq
      cases heq
      exact h rfl

theorem sign_digit {d : Char} (hd : d.isDigit = true) (rest : List Char) :
    sign (d :: rest) = ([], d :: rest) := by
  unfold sign
  split <;> simp_all

/-- A number without sign, fraction or exponent is nothing but a whole number. -/
theorem numberOrMoment_toString {n : Nat} (hn : (n : Int) ≤ Int64.maxValue.toInt) (more : List Char) :
    numberOrMoment ((toString n).toList ++ '\n' :: more) =
      some (.scalar (.integer n), '\n' :: more) := by
  have hwithin : within64 n = some (.integer n) := by
    rw [within64, if_pos ⟨Int.le_trans (by decide) (Int.natCast_nonneg n), hn⟩]
  have hread := Text.decimal?_toString n
  obtain ⟨d, ds, hd, hds, hzero, htext⟩ := exists_digits n
  rw [htext] at hread ⊢
  rw [List.cons_append]
  have hsign := sign_digit hd (ds ++ '\n' :: more)
  have hwhole := wholeDigits_digits hd hds hzero more
  have hmoment : dateOrTime (d :: (ds ++ '\n' :: more)) = none :=
    dateOrTime_digits (List.forall_mem_cons.2 ⟨hd, hds⟩)
  have hfractional : fractional (d :: (ds ++ '\n' :: more)) = none := by
    simp only [fractional, hsign, hwhole, Option.bind_eq_bind, Option.bind_some]
    rfl
  have hspecial : special (d :: (ds ++ '\n' :: more)) = none := by
    simp only [special, hsign]
    split <;> simp_all
  have hinteger : integer (d :: (ds ++ '\n' :: more)) =
      some (.scalar (.integer n), '\n' :: more) := by
    unfold integer
    split
    · simp_all
    · simp_all
    · simp_all
    · simp only [hsign, hwhole, Option.bind_eq_bind, Option.bind_some, hread]
      simp [hwithin]
  rw [numberOrMoment, hmoment, hfractional, hspecial, hinteger]
  rfl

/-! ## Scalars -/

/-- Can a document hold the scalar, and is it not below zero? -/
def Fits : Scalar → Prop
  | .integer n => 0 ≤ n ∧ n ≤ Int64.maxValue.toInt
  | .string _ | .boolean _ => True

/-- A scalar begins with a character of its own. -/
theorem writeScalar_head {v : Scalar} (h : Fits v) : ∃ c w, writeScalar v = c :: w ∧
    isBlank c = false ∧ c ≠ '[' ∧ c ≠ '\x7b' := by
  cases v with
  | string s =>
    rw [writeScalar, writeString]
    cases Quoting.of s.toList <;> exact ⟨_, _, rfl, by decide, by decide, by decide⟩
  | integer n =>
    obtain ⟨n, rfl⟩ := Int.eq_ofNat_of_zero_le h.1
    obtain ⟨d, ds, hd, -, -, htext⟩ := exists_digits n
    refine ⟨d, ds, htext, ?_, ?_, ?_⟩
    · rw [isBlank, Bool.or_eq_false_iff, beq_eq_false_iff_ne, beq_eq_false_iff_ne]
      constructor <;> rintro rfl <;> cases hd
    · rintro rfl
      cases hd
    · rintro rfl
      cases hd
  | boolean b => cases b <;> exact ⟨_, _, rfl, by decide, by decide, by decide⟩

theorem plainValue_writeScalar {v : Scalar} (h : Fits v) (more : List Char) :
    plainValue (writeScalar v ++ '\n' :: more) = some (.scalar v, '\n' :: more) := by
  cases v with
  | string s =>
    have hread : string (writeString s.toList ++ '\n' :: more) = some (_, '\n' :: more) :=
      string_writeString s.toList (by simp) (by simp)
    rw [writeScalar]
    have hquote : ∃ c w, writeString s.toList = c :: w ∧ (c = '"' ∨ c = '\'') := by
      rw [writeString]
      cases Quoting.of s.toList
      · exact ⟨_, _, rfl, .inl rfl⟩
      · exact ⟨_, _, rfl, .inr rfl⟩
      · exact ⟨_, _, rfl, .inl rfl⟩
      · exact ⟨_, _, rfl, .inr rfl⟩
    obtain ⟨c, w, hw, hc⟩ := hquote
    rw [hw, List.cons_append] at hread ⊢
    unfold plainValue
    split
    · simp_all
    · simp_all
    · rename_i heq
      cases heq
      rw [if_pos hc, hread, String.ofList_toList]
      rfl
    · simp_all
  | integer n =>
    obtain ⟨n, rfl⟩ := Int.eq_ofNat_of_zero_le h.1
    have hread := numberOrMoment_toString h.2 more
    obtain ⟨d, ds, hd, -, -, htext⟩ := exists_digits n
    show plainValue ((toString n).toList ++ _) = _
    rw [htext, List.cons_append] at hread ⊢
    have hquote : ¬(d = '"' ∨ d = '\'') := by
      rintro (rfl | rfl) <;> cases hd
    unfold plainValue
    split
    · simp_all
    · simp_all
    · rename_i heq
      cases heq
      rw [if_neg hquote, if_pos (.inl hd), hread]
    · simp_all
  | boolean b => cases b <;> rfl

/-- A scalar at the end of a line is read back. -/
theorem value_writeScalar {v : Scalar} (h : Fits v) (budget : Nat) (more : List Char) :
    value budget (writeScalar v ++ '\n' :: more) = some (.scalar v, '\n' :: more) := by
  have hplain := plainValue_writeScalar h more
  obtain ⟨c, w, hw, -, hbracket, hbrace⟩ := writeScalar_head h
  rw [hw, List.cons_append] at hplain ⊢
  rw [value, depthLimit]
  show valueWithin budget (78 + 1) _ = _
  unfold valueWithin
  split
  · simp_all
  · simp_all
  · exact hplain

/-! ## Keys -/

/-- Can the key stand without quotes? -/
def IsBare (name : String) : Prop := name.toList ≠ [] ∧ ∀ c ∈ name.toList, isBare c = true

theorem exists_bare {name : String} (h : IsBare name) : ∃ c w, name.toList = c :: w ∧
    isBlank c = false ∧ c ≠ '"' ∧ c ≠ '\'' ∧ c ≠ '[' ∧ c ≠ '#' ∧ c ≠ '\n' ∧ c ≠ '\r' := by
  obtain ⟨c, w, hw⟩ := List.exists_cons_of_ne_nil h.1
  have hc := h.2 c (hw ▸ List.mem_cons_self)
  refine ⟨c, w, hw, ?_, ?_, ?_, ?_, ?_, ?_, ?_⟩
  · rw [isBlank, Bool.or_eq_false_iff, beq_eq_false_iff_ne, beq_eq_false_iff_ne]
    constructor <;> rintro rfl <;> cases hc
  all_goals
    rintro rfl
    cases hc

theorem skipBlanks_cons {c : Char} (hc : isBlank c = false) (rest : List Char) :
    skipBlanks (c :: rest) = c :: rest :=
  List.dropWhile_cons_of_neg (by simp [hc])

/-- A key that stands alone, before something that is no part of it. -/
theorem key_bare {name : String} (h : IsBare name) {x : Char} (hx : isBare x = false)
    (hdot : (skipBlanks (x :: rest)).head? ≠ some '.') :
    key (name.toList ++ x :: rest) = some (([], name), skipBlanks (x :: rest)) := by
  obtain ⟨c, w, hw, hblank, hdouble, hsingle, -⟩ := exists_bare h
  have hspan : (name.toList ++ x :: rest).takeWhile isBare = name.toList ∧
      (name.toList ++ x :: rest).dropWhile isBare = x :: rest := by
    rw [List.takeWhile_append_of_pos h.2, List.dropWhile_append_of_pos h.2,
      List.takeWhile_cons_of_neg (by simp [hx]), List.dropWhile_cons_of_neg (by simp [hx])]
    simp
  have hpart : keyPart (name.toList ++ x :: rest) = some (name, x :: rest) := by
    unfold keyPart
    split
    · simp_all
    · simp_all
    · have hname : String.ofList (c :: w) = name := by rw [← hw, String.ofList_toList]
      rw [hspan.1, hspan.2, hw]
      simp only [hname]
  have hskip : skipBlanks (name.toList ++ x :: rest) = name.toList ++ x :: rest := by
    rw [hw, List.cons_append, skipBlanks_cons hblank]
  rw [key, depthLimit]
  show keyWithin (78 + 1) _ = _
  rw [keyWithin, hskip, hpart]
  simp only
  split
  · rename_i heq
    rw [heq] at hdot
    exact absurd rfl hdot
  · rfl

/-! ## Statements -/

/-- A line and the statement that it makes, whatever comes after it. -/
structure IsLine (line : List Char) (s : Statement) : Prop where
  ne_nil : line ≠ []
  skips : ∀ more, skipBlanks (line ++ more) = line ++ more
  reads : ∀ budget more, statement budget (line ++ more) = some (s, more)

theorem trailing?_lineFeed (more : List Char) : trailing? ('\n' :: more) = some more := rfl

theorem isLine_blank : IsLine ['\n'] .blank := ⟨nofun, fun _ => rfl, fun _ _ => rfl⟩

/-- A comment of plain characters. -/
theorem isLine_comment {text : List Char} (h : ∀ c ∈ text, isPlain c = true) :
    IsLine ('#' :: (text ++ ['\n'])) (.comment (String.ofList text)) := by
  refine ⟨nofun, fun _ => rfl, fun budget more => ?_⟩
  have htext : ('#' :: (text ++ ['\n'])) ++ more = '#' :: (text ++ '\n' :: more) := by simp
  have hfeed : ¬ isPlain '\n' = true := by decide
  rw [htext, statement, comment, List.takeWhile_append_of_pos h, List.dropWhile_append_of_pos h,
    List.takeWhile_cons_of_neg hfeed, List.dropWhile_cons_of_neg hfeed, List.append_nil]
  rfl

/-- The header of a section. -/
theorem isLine_header {name : String} (h : IsBare name) :
    IsLine (['['] ++ name.toList ++ [']', '\n']) (.table [] name) := by
  refine ⟨nofun, fun _ => rfl, fun budget more => ?_⟩
  obtain ⟨c, w, hw, -, -, -, hbracket, -⟩ := exists_bare h
  have hskip : skipBlanks (']' :: '\n' :: more) = ']' :: '\n' :: more := rfl
  have hkey := key_bare h (x := ']') rfl (by rw [hskip]; simp)
  have htext : ['['] ++ name.toList ++ [']', '\n'] ++ more =
      '[' :: (name.toList ++ ']' :: '\n' :: more) := by simp
  rw [htext]
  rw [hw, List.cons_append] at hkey ⊢
  unfold statement
  split
  · simp_all
  · simp_all
  · simp_all
  · rename_i heq
    cases heq
    simp only [hkey, Option.bind_eq_bind, Option.bind_some]
    rfl
  · simp_all

/-- A field and its value. -/
theorem isLine_field {name : String} (h : IsBare name) {v : Scalar} (hv : Fits v) :
    IsLine (name.toList ++ [' ', '=', ' '] ++ writeScalar v ++ ['\n'])
      (.entry [] name (.scalar v)) := by
  obtain ⟨c, w, hw, hblank, -, -, hbracket, hcomment, hfeed, hreturn⟩ := exists_bare h
  refine ⟨by simp, fun more => ?_, fun budget more => ?_⟩
  · rw [hw, List.cons_append]
    exact skipBlanks_cons hblank _
  obtain ⟨x, u, hu, hxblank, -, -⟩ := writeScalar_head hv
  have hequals : skipBlanks (' ' :: '=' :: ' ' :: (writeScalar v ++ '\n' :: more)) =
      '=' :: ' ' :: (writeScalar v ++ '\n' :: more) := rfl
  have hkey := key_bare h (x := ' ') rfl (by rw [hequals]; simp)
  have hvalue := value_writeScalar hv budget more
  have hskip : skipBlanks (' ' :: (writeScalar v ++ '\n' :: more)) =
      writeScalar v ++ '\n' :: more := by
    rw [hu, List.cons_append]
    exact skipBlanks_cons hxblank _
  have hpair : pair (value budget)
      (name.toList ++ ' ' :: '=' :: ' ' :: (writeScalar v ++ '\n' :: more)) =
        some (([], name, .scalar v), '\n' :: more) := by
    simp only [pair, hkey, hequals, Text.expect, if_true, Option.bind_eq_bind, Option.bind_some, hskip,
      hvalue]
    rfl
  have htext : name.toList ++ [' ', '=', ' '] ++ writeScalar v ++ ['\n'] ++ more =
      name.toList ++ ' ' :: '=' :: ' ' :: (writeScalar v ++ '\n' :: more) := by simp
  rw [htext]
  rw [hw, List.cons_append] at hpair ⊢
  unfold statement
  split
  · simp_all
  · simp_all
  · simp_all
  · simp_all
  · rename_i heq
    rw [lineEnd?_cons hfeed hreturn]
    simp only [hpair, Option.bind_eq_bind, Option.bind_some, trailing?_lineFeed]
    rfl

/-- Lines one after the other make their statements. -/
theorem statementsWithin_lines (budget : Nat) {lines : List (List Char × Statement)}
    (h : ∀ p ∈ lines, IsLine p.1 p.2) {left : Nat} (hleft : lines.length < left)
    (done : List Statement) :
    statementsWithin budget left done (lines.flatMap (·.1)) =
      some (done.reverse ++ lines.map (·.2)) := by
  induction lines generalizing left done with
  | nil =>
    obtain ⟨left, rfl⟩ := Nat.exists_eq_succ_of_ne_zero (Nat.ne_of_gt hleft)
    rw [List.map_nil, List.append_nil]
    rfl
  | cons p lines ih =>
    obtain ⟨left, rfl⟩ := Nat.exists_eq_succ_of_ne_zero (Nat.ne_of_gt (Nat.zero_lt_of_lt hleft))
    obtain ⟨hp, hlines⟩ := List.forall_mem_cons.1 h
    obtain ⟨c, w, hw⟩ := List.exists_cons_of_ne_nil hp.ne_nil
    rw [List.flatMap_cons, statementsWithin, hp.skips]
    split
    · simp_all
    · rw [hp.reads]
      simp only
      rw [ih hlines (by simpa using hleft), List.map_cons, List.reverse_cons, List.append_assoc]
      rfl

theorem statements?_lines {lines : List (List Char × Statement)}
    (h : ∀ p ∈ lines, IsLine p.1 p.2) :
    statements? (lines.flatMap (·.1)) = some (lines.map (·.2)) := by
  have hlength : lines.length ≤ (lines.flatMap (·.1)).length := by
    induction lines with
    | nil => exact Nat.le_refl _
    | cons p lines ih =>
      obtain ⟨hp, hlines⟩ := List.forall_mem_cons.1 h
      have hpos := List.length_pos_iff.2 hp.ne_nil
      have := ih hlines
      rw [List.flatMap_cons, List.length_append, List.length_cons]
      omega
  rw [statements?, statementsWithin_lines _ h (by omega)]
  rfl

/-! ## Tables -/

namespace Entries

variable {es : Entries} {k : String}

theorem find_eq_none (h : k ∉ es.map (·.1)) : es.find k = none := by
  have hnone : es.find? (fun e => e.1 == k) = none := by
    rw [List.find?_eq_none]
    intro e he heq
    exact h (List.mem_map.2 ⟨e, he, beq_iff_eq.1 heq⟩)
  rw [find, hnone, Option.map_none]

/-- A new key goes to the end. -/
theorem put_new (h : k ∉ es.map (·.1)) (n : Node) : es.put k n = es ++ [(k, n)] := by
  induction es with
  | nil => rfl
  | cons e es ih =>
    rw [List.map_cons, List.mem_cons, not_or] at h
    rw [put, if_neg (Ne.symm h.1), ih h.2, List.cons_append]

/-- Keys that are new and differ from each other are set in order. -/
theorem setAll_fields {fields : List (String × Scalar)}
    (h : (es.map (·.1) ++ fields.map (·.1)).Nodup) :
    setAll es (fields.map fun f => ([], f.1, .scalar f.2)) =
      some (es ++ fields.map fun f => (f.1, .value (.scalar f.2))) := by
  induction fields generalizing es with
  | nil => simp [setAll]
  | cons f fields ih =>
    have hnew : f.1 ∉ es.map (·.1) := by
      intro hmem
      exact (List.nodup_append.1 h).2.2 _ hmem _ (by simp) rfl
    have hrest : ((es ++ [(f.1, Node.value (.scalar f.2))]).map (·.1) ++ fields.map (·.1)).Nodup := by
      simpa using h
    rw [List.map_cons, setAll, set, setNew, find_eq_none hnew]
    show setAll (es ++ [(f.1, Node.value (.scalar f.2))]) _ = _
    rw [ih hrest]
    simp

/-- The header of a new table, with its keys. -/
theorem openTable_new {fields : List (String × Scalar)} (hk : k ∉ es.map (·.1))
    (hfields : (fields.map (·.1)).Nodup) :
    es.openTable [] k (fields.map fun f => ([], f.1, .scalar f.2)) =
      some (es ++ [(k, .table .header (fields.map fun f => (f.1, .value (.scalar f.2))))]) := by
  have hset : setAll [] _ = some ([] ++ _) := setAll_fields (by simpa using hfields)
  rw [List.nil_append] at hset
  rw [openTable, update]
  simp only [find_eq_none hk, hset, Option.map_some, put_new hk]

end Entries

/-! ## Sections -/

/-- The field of a section as a line and as a statement. -/
def fieldLine (f : String × Scalar) : List Char × Statement :=
  (f.1.toList ++ [' ', '=', ' '] ++ writeScalar f.2 ++ ['\n'], .entry [] f.1 (.scalar f.2))

/-- The lines of a section and their statements. -/
def sectionLines (s : Section) : List (List Char × Statement) :=
  (['['] ++ s.name.toList ++ [']', '\n'], .table [] s.name) :: s.fields.map fieldLine

/-- The lines of some sections and their statements. -/
def sectionsLines : List Section → List (List Char × Statement)
  | [] => []
  | [s] => sectionLines s
  | s :: more => sectionLines s ++ (['\n'], .blank) :: sectionsLines more

/-- Can the section be written so that it is read back? -/
structure Section.Fits (s : Section) : Prop where
  name : IsBare s.name
  fields : ∀ f ∈ s.fields, IsBare f.1 ∧ Toml.Fits f.2
  nodup : (s.fields.map (·.1)).Nodup

theorem flatMap_sectionLines (s : Section) : (sectionLines s).flatMap (·.1) = s.write := by
  rw [sectionLines, List.flatMap_cons, List.flatMap_map, Section.write]
  rfl

theorem flatMap_sectionsLines (ss : List Section) :
    (sectionsLines ss).flatMap (·.1) = writeSections ss := by
  rw [writeSections, List.intercalate]
  induction ss with
  | nil => rfl
  | cons s ss ih =>
    cases ss with
    | nil =>
      rw [sectionsLines, flatMap_sectionLines]
      simp
    | cons s' ss =>
      rw [sectionsLines, List.flatMap_append, List.flatMap_cons, flatMap_sectionLines, ih]
      · simp
      · simp

theorem isLine_of_mem_sectionLines {s : Section} (h : s.Fits) :
    ∀ p ∈ sectionLines s, IsLine p.1 p.2 := by
  refine List.forall_mem_cons.2 ⟨isLine_header h.name, ?_⟩
  intro p hp
  obtain ⟨f, hf, rfl⟩ := List.mem_map.1 hp
  obtain ⟨hname, hv⟩ := h.fields f hf
  exact isLine_field hname hv

theorem isLine_of_mem_sectionsLines {ss : List Section} (h : ∀ s ∈ ss, s.Fits) :
    ∀ p ∈ sectionsLines ss, IsLine p.1 p.2 := by
  fun_induction sectionsLines ss with
  | case1 => nofun
  | case2 s => exact isLine_of_mem_sectionLines (h s List.mem_cons_self)
  | case3 s more _ ih =>
    obtain ⟨hs, hmore⟩ := List.forall_mem_cons.1 h
    intro p hp
    rcases List.mem_append.1 hp with hp | hp
    · exact isLine_of_mem_sectionLines hs p hp
    · rcases List.mem_cons.1 hp with rfl | hp
      · exact isLine_blank
      · exact ih hmore p hp

/-- The fields of a section come before what follows it. -/
theorem keysBefore_fields (fields : List (String × Scalar)) (more : List Statement) :
    keysBefore (fields.map (fun f => (fieldLine f).2) ++ more) =
      (fields.map (fun f => ([], f.1, .scalar f.2)) ++ (keysBefore more).1, (keysBefore more).2) := by
  induction fields with
  | nil => rfl
  | cons f fields ih =>
    rw [List.map_cons, List.cons_append, fieldLine, keysBefore, ih]
    rfl

/-- The entry that a section makes. -/
def sectionEntry (s : Section) : String × Node :=
  (s.name, .table .header (s.fields.map fun f => (f.1, .value (.scalar f.2))))

theorem addStatements_sections {ss : List Section} (h : ∀ s ∈ ss, s.Fits) {es : Entries}
    (hnames : (es.map (·.1) ++ ss.map (·.name)).Nodup) :
    Entries.addStatements es ((sectionsLines ss).map (·.2)) = some (es ++ ss.map sectionEntry) := by
  induction ss generalizing es with
  | nil => simp [sectionsLines, Entries.addStatements]
  | cons s ss ih =>
    obtain ⟨hs, hss⟩ := List.forall_mem_cons.1 h
    have hnew : s.name ∉ es.map (·.1) := by
      intro hmem
      exact (List.nodup_append.1 hnames).2.2 _ hmem _ (by simp) rfl
    have hrest : ((es ++ [sectionEntry s]).map (·.1) ++ ss.map (·.name)).Nodup := by
      simpa [sectionEntry] using hnames
    have hopen := Entries.openTable_new hnew hs.nodup
    -- What follows the fields begins with the header of the next section, or is nothing.
    have hadd (more : List Statement) (hkeys : keysBefore more = ([], (sectionsLines ss).map (·.2))) :
        Entries.addStatements es ((sectionLines s).map (·.2) ++ more) =
          some (es ++ (s :: ss).map sectionEntry) := by
      have hstatements : (sectionLines s).map (·.2) ++ more =
          .table [] s.name :: (s.fields.map (fun f => (fieldLine f).2) ++ more) := by
        simp [sectionLines]
      rw [hstatements, Entries.addStatements, keysBefore_fields, hkeys, List.append_nil, hopen]
      show Entries.addStatements (es ++ [sectionEntry s]) _ = _
      rw [ih hss hrest]
      simp
    cases ss with
    | nil => simpa [sectionsLines] using hadd [] rfl
    | cons s' ss =>
      rw [sectionsLines, List.map_append, List.map_cons]
      · refine hadd _ ?_
        cases ss <;> rfl
      · simp

theorem builtEntries_fields (fields : List (String × Scalar)) :
    builtEntries (fields.map fun f => (f.1, .value (.scalar f.2))) =
      fields.map fun f => (f.1, .scalar f.2) := by
  induction fields with
  | nil => rfl
  | cons f fields ih => rw [List.map_cons, builtEntries, ih, Node.built]; rfl

theorem builtEntries_sections (ss : List Section) :
    builtEntries (ss.map sectionEntry) =
      ss.map fun s => (s.name, .table (s.fields.map fun f => (f.1, .scalar f.2))) := by
  induction ss with
  | nil => rfl
  | cons s ss ih =>
    rw [List.map_cons, sectionEntry, builtEntries, ih, Node.built, builtEntries_fields]
    rfl

/-- **Documents are read back.** A comment, an empty line and some sections are read as the table of
these sections. -/
theorem parse_document {text : List Char} (htext : ∀ c ∈ text, isPlain c = true) {ss : List Section}
    (h : ∀ s ∈ ss, s.Fits) (hnames : (ss.map (·.name)).Nodup) :
    parse (String.ofList ('#' :: (text ++ '\n' :: '\n' :: writeSections ss))) =
      some (.table (ss.map fun s => (s.name, .table (s.fields.map fun f => (f.1, .scalar f.2))))) := by
  let lines := ('#' :: (text ++ ['\n']), Statement.comment (String.ofList text)) ::
    (['\n'], .blank) :: sectionsLines ss
  have hlines : ∀ p ∈ lines, IsLine p.1 p.2 :=
    List.forall_mem_cons.2 ⟨isLine_comment htext,
      List.forall_mem_cons.2 ⟨isLine_blank, isLine_of_mem_sectionsLines h⟩⟩
  have hwritten : '#' :: (text ++ '\n' :: '\n' :: writeSections ss) = lines.flatMap (·.1) := by
    rw [← flatMap_sectionsLines]
    simp [lines]
  have hadd : Entries.addStatements [] (lines.map (·.2)) = some (ss.map sectionEntry) := by
    have hsections : Entries.addStatements [] ((sectionsLines ss).map (·.2)) =
        some ([] ++ ss.map sectionEntry) := addStatements_sections h (by simpa using hnames)
    simp only [lines, List.map_cons]
    rw [Entries.addStatements, Entries.addStatements, hsections, List.nil_append]
  have hmark : dropMark ('#' :: (text ++ '\n' :: '\n' :: writeSections ss)) =
      '#' :: (text ++ '\n' :: '\n' :: writeSections ss) := rfl
  rw [parse, String.toList_ofList, hmark, hwritten, statements?_lines hlines, Option.bind_some, hadd,
    Option.map_some, builtEntries_sections]

end DebugBridge.Toml
