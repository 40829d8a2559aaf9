import DebugBridge.LocalFiles

/-!
# How paths are spelled

A path that is not made of slashes alone has a last name, with a directory spelled in front of it and
perhaps slashes behind it (`Spelled`). From this its route and its components are read. The same path
with another ending has another last name, and so another normal form wherever it leads.

Results: `exists_spelled`, `route_of_name`, `exists_rest_of_mem_above`, `withEnding_names_other`,
`normal_ne`, `resolve_workingDirectory`.
-/

namespace DebugBridge.LocalFiles

variable {cs front name rest : List Char} {slashes : Nat}

/-! ## Pieces -/

/-- The names among the pieces between the slashes. -/
def partsOf (pieces : List (List Char)) : List String :=
  (pieces.filter (! ·.isEmpty)).map String.ofList

theorem route_parts (path : String) : (route path).parts = partsOf (path.toList.splitOn '/') := rfl

theorem partsOf_append (pieces more : List (List Char)) :
    partsOf (pieces ++ more) = partsOf pieces ++ partsOf more := by
  rw [partsOf, List.filter_append, List.map_append, partsOf, partsOf]

theorem partsOf_cons (h : name ≠ []) (pieces : List (List Char)) :
    partsOf (name :: pieces) = String.ofList name :: partsOf pieces := by
  have hname : (! name.isEmpty) = true := by simpa using h
  rw [partsOf, List.filter_cons, if_pos hname, List.map_cons, partsOf]

theorem partsOf_replicate (n : Nat) : partsOf (List.replicate n []) = [] := by
  simp [partsOf]

theorem splitOn_replicate (n : Nat) :
    (List.replicate n '/').splitOn '/' = List.replicate (n + 1) [] := by
  induction n with
  | zero => rfl
  | succ n ih =>
    rw [List.replicate_succ, List.splitOn_cons_eq_if_modifyHead, if_pos (by decide), ih]
    rfl

theorem flatMap_splitOn (cs : List Char) : (cs.splitOn '/').flatMap (· ++ ['/']) = cs ++ ['/'] := by
  induction cs with
  | nil => rfl
  | cons c cs ih =>
    rw [List.splitOn_cons_eq_if_modifyHead]
    by_cases hc : (c == '/') = true
    · rw [if_pos hc, List.flatMap_cons, ih, eq_of_beq hc]
      rfl
    · rw [if_neg hc]
      cases hpieces : cs.splitOn '/' with
      | nil => exact absurd hpieces (List.splitOn_ne_nil _ _)
      | cons piece pieces =>
        rw [hpieces, List.flatMap_cons] at ih
        rw [List.modifyHead_cons, List.flatMap_cons, List.cons_append, List.cons_append, ih]
        rfl

/-! ## The last name -/

/-- The text of a directory, with a slash at its end. -/
def IsFront (front : List Char) : Prop := front = [] ∨ ∃ dir, front = dir ++ ['/']

/-- A path's text, by its last name. -/
structure Spelled (cs front name : List Char) (slashes : Nat) : Prop where
  text : cs = front ++ (name ++ List.replicate slashes '/')
  front : IsFront front
  slashless : '/' ∉ name
  nonempty : name ≠ []

/-- Every path that is not made of slashes alone has a last name. -/
theorem exists_spelled (cs : List Char) :
    (∃ n, cs = List.replicate n '/') ∨ ∃ front name slashes, Spelled cs front name slashes := by
  induction cs with
  | nil => exact .inl ⟨0, rfl⟩
  | cons c cs ih =>
    by_cases hc : c = '/'
    · subst hc
      rcases ih with ⟨n, rfl⟩ | ⟨front, name, slashes, h⟩
      · exact .inl ⟨n + 1, rfl⟩
      · refine .inr ⟨'/' :: front, name, slashes, by rw [h.text]; rfl, ?_, h.slashless, h.nonempty⟩
        rcases h.front with rfl | ⟨dir, rfl⟩
        · exact .inr ⟨[], rfl⟩
        · exact .inr ⟨'/' :: dir, rfl⟩
    · rcases ih with ⟨n, rfl⟩ | ⟨front, name, slashes, h⟩
      · exact .inr ⟨[], [c], n, rfl, .inl rfl, by simpa using Ne.symm hc, by simp⟩
      · rcases h.front with rfl | ⟨dir, rfl⟩
        · exact .inr ⟨[], c :: name, slashes, by rw [h.text]; rfl, .inl rfl,
            by simp [Ne.symm hc, h.slashless], by simp⟩
        · exact .inr ⟨c :: (dir ++ ['/']), name, slashes, by rw [h.text]; rfl, .inr ⟨c :: dir, rfl⟩,
            h.slashless, h.nonempty⟩

/-- The pieces in front of the last name. -/
theorem IsFront.splitOn (h : IsFront front) (rest : List Char) :
    ∃ pieces, pieces.flatMap (· ++ ['/']) = front ∧
      (front ++ rest).splitOn '/' = pieces ++ rest.splitOn '/' := by
  rcases h with rfl | ⟨dir, rfl⟩
  · exact ⟨[], rfl, rfl⟩
  · refine ⟨dir.splitOn '/', flatMap_splitOn dir, ?_⟩
    rw [List.append_assoc, List.singleton_append, List.splitOn_append_cons_self]

theorem splitOn_name (h : '/' ∉ name) (slashes : Nat) :
    (name ++ List.replicate slashes '/').splitOn '/' = name :: List.replicate slashes [] := by
  cases slashes with
  | zero => rw [List.replicate_zero, List.append_nil, List.splitOn_eq_singleton h]; rfl
  | succ n =>
    rw [List.replicate_succ, List.splitOn_append_cons_self_of_not_mem h, splitOn_replicate]

theorem Spelled.splitOn (h : Spelled cs front name slashes) :
    ∃ pieces, pieces.flatMap (· ++ ['/']) = front ∧
      cs.splitOn '/' = pieces ++ name :: List.replicate slashes [] := by
  obtain ⟨pieces, hfront, hsplit⟩ := h.front.splitOn (name ++ List.replicate slashes '/')
  exact ⟨pieces, hfront, by rw [h.text, hsplit, splitOn_name h.slashless]⟩

/-- The route ends in the last name. -/
theorem Spelled.last {path : String} (h : Spelled path.toList front name slashes) :
    (route path).parts.getLast? = some (String.ofList name) := by
  obtain ⟨pieces, -, hsplit⟩ := h.splitOn
  rw [route_parts, hsplit, partsOf_append, partsOf_cons h.nonempty, partsOf_replicate]
  simp

theorem spelled_of_last {path last : String} (h : (route path).parts.getLast? = some last) :
    ∃ front slashes, Spelled path.toList front last.toList slashes := by
  rcases exists_spelled path.toList with ⟨n, hn⟩ | ⟨front, name, slashes, hspelled⟩
  · rw [route_parts, hn, splitOn_replicate, partsOf_replicate] at h
    cases h
  · rw [hspelled.last, Option.some.injEq] at h
    subst h
    exact ⟨front, slashes, by rwa [String.toList_ofList]⟩

/-- A path without a name is made of slashes, and so begins at the root. -/
theorem fromRoot_of_parts {path : String} (hne : path ≠ "") (h : (route path).parts = []) :
    (route path).fromRoot = true := by
  rcases exists_spelled path.toList with ⟨n, hn⟩ | ⟨front, name, slashes, hspelled⟩
  · have hpos : n ≠ 0 := by
      rintro rfl
      exact hne (String.toList_inj.1 hn)
    simp [route, hn, List.head?_replicate, hpos]
  · have hlast := hspelled.last
    rw [h] at hlast
    cases hlast

/-- The route to a name behind a slash. -/
theorem route_of_name {path name : String} {dir : List Char}
    (htext : path.toList = dir ++ '/' :: name.toList) (hslash : '/' ∉ name.toList) (hne : name ≠ "") :
    route path = ⟨path.toList.head? == some '/', partsOf (dir.splitOn '/') ++ [name], false⟩ := by
  have hchars : name.toList ≠ [] := by simpa using hne
  have hparts : partsOf (path.toList.splitOn '/') = partsOf (dir.splitOn '/') ++ [name] := by
    rw [htext, List.splitOn_append_cons_self, List.splitOn_eq_singleton hslash, partsOf_append,
      partsOf_cons hchars, String.ofList_toList]
    rfl
  have hend : path.toList.getLast? ≠ some '/' := by
    obtain ⟨start, c, hname⟩ : ∃ start c, name.toList = start ++ [c] :=
      ⟨_, _, (List.dropLast_concat_getLast hchars).symm⟩
    rw [htext, hname, ← List.cons_append, ← List.append_assoc, List.getLast?_concat, Ne,
      Option.some.injEq]
    rintro rfl
    exact hslash (by simp [hname])
  rw [← hparts, ← beq_false_of_ne hend]
  rfl

/-! ## Components -/

theorem componentsAfter_append (front : List Char) (pieces more : List (List Char)) :
    componentsAfter front (pieces ++ more) =
      componentsAfter front pieces ++
        componentsAfter (front ++ pieces.flatMap (· ++ ['/'])) more := by
  induction pieces generalizing front with
  | nil => rw [List.flatMap_nil, List.append_nil]; rfl
  | cons piece pieces ih =>
    have hfront : front ++ (piece :: pieces).flatMap (· ++ ['/']) =
        front ++ piece ++ ['/'] ++ pieces.flatMap (· ++ ['/']) := by
      rw [List.flatMap_cons, List.append_assoc, List.append_assoc, List.append_assoc]
    rw [List.cons_append, componentsAfter, componentsAfter, ih, hfront]
    split
    · rfl
    · rfl

theorem componentsAfter_replicate (front : List Char) (n : Nat) :
    componentsAfter front (List.replicate n []) = [] := by
  induction n generalizing front with
  | zero => rfl
  | succ n ih => rw [List.replicate_succ, componentsAfter, if_pos (by rfl), ih]

theorem Spelled.components {path : String} (h : Spelled path.toList front name slashes)
    (hdot : name ≠ ['.']) :
    (components path).getLast? = some ⟨String.ofList front, String.ofList name⟩ := by
  obtain ⟨pieces, hfront, hsplit⟩ := h.splitOn
  have hname : ¬ (name.isEmpty || (name == ['.'] && ! front.isEmpty)) = true := by
    simp [h.nonempty, hdot]
  rw [LocalFiles.components, hsplit, componentsAfter_append, hfront, List.nil_append, componentsAfter,
    if_neg hname, componentsAfter_replicate, List.getLast?_append]
  rfl

/-- The last component is a name, unless it is `.` or `..`. -/
theorem Spelled.file?_eq {path : String} (h : Spelled path.toList front name slashes)
    (hdots : isDots (String.ofList name) = false) :
    file? path = some ⟨String.ofList front, String.ofList name⟩ := by
  have hdot : name ≠ ['.'] := by
    rintro rfl
    exact absurd hdots (by decide)
  rw [file?, h.components hdot, Option.filter_some, if_pos (by simp [hdots])]

theorem Spelled.file?_up {path : String} (h : Spelled path.toList front ['.', '.'] slashes) :
    file? path = none := by
  rw [file?, h.components (by decide), Option.filter_some]
  rfl

theorem exists_of_mem_componentsAfter {front : List Char} {pieces : List (List Char)} {c : Component}
    (h : c ∈ componentsAfter front pieces) :
    ∃ before piece after, pieces = before ++ piece :: after ∧ piece ≠ [] ∧
      c.path.toList = front ++ before.flatMap (· ++ ['/']) ++ piece := by
  induction pieces generalizing front with
  | nil => cases h
  | cons piece pieces ih =>
    have hlater (h : c ∈ componentsAfter (front ++ piece ++ ['/']) pieces) :
        ∃ before piece' after, piece :: pieces = before ++ piece' :: after ∧ piece' ≠ [] ∧
          c.path.toList = front ++ before.flatMap (· ++ ['/']) ++ piece' := by
      obtain ⟨before, piece', after, rfl, hpiece, hpath⟩ := ih h
      exact ⟨piece :: before, piece', after, rfl, hpiece, by rw [hpath]; simp⟩
    rw [componentsAfter] at h
    split at h
    case isTrue => exact hlater h
    case isFalse hkept =>
      rcases List.mem_cons.1 h with rfl | h
      · exact ⟨[], piece, pieces, rfl, by rintro rfl; exact hkept rfl, by simp [Component.path]⟩
      · exact hlater h

/-- After each component but the last comes another name. -/
theorem exists_of_mem_dropLast {front : List Char} {pieces : List (List Char)} {c : Component}
    (h : c ∈ (componentsAfter front pieces).dropLast) :
    ∃ before piece after, pieces = before ++ piece :: after ∧ piece ≠ [] ∧
      c.path.toList = front ++ before.flatMap (· ++ ['/']) ++ piece ∧ partsOf after ≠ [] := by
  induction pieces generalizing front with
  | nil => cases h
  | cons piece pieces ih =>
    have hlater (h : c ∈ (componentsAfter (front ++ piece ++ ['/']) pieces).dropLast) :
        ∃ before piece' after, piece :: pieces = before ++ piece' :: after ∧ piece' ≠ [] ∧
          c.path.toList = front ++ before.flatMap (· ++ ['/']) ++ piece' ∧ partsOf after ≠ [] := by
      obtain ⟨before, piece', after, rfl, hpiece, hpath, hafter⟩ := ih h
      exact ⟨piece :: before, piece', after, rfl, hpiece, by rw [hpath]; simp, hafter⟩
    rw [componentsAfter] at h
    split at h
    case isTrue => exact hlater h
    case isFalse hkept =>
      cases hothers : componentsAfter (front ++ piece ++ ['/']) pieces with
      | nil =>
        rw [hothers] at h
        cases h
      | cons d others =>
        rw [hothers, List.dropLast_cons_cons] at h
        rcases List.mem_cons.1 h with rfl | h
        · refine ⟨[], piece, pieces, rfl, by rintro rfl; exact hkept rfl, by simp [Component.path], ?_⟩
          obtain ⟨before, piece', after, rfl, hpiece, -⟩ :=
            exists_of_mem_componentsAfter (hothers ▸ List.mem_cons_self)
          rw [partsOf_append, partsOf_cons hpiece]
          simp
        · exact hlater (hothers ▸ h)

/-- A path above another one begins it, and a name is left. -/
theorem exists_rest_of_mem_above {path up : String} (h : up ∈ above path) :
    up.toList ≠ [] ∧
      ∃ rest, path.toList = up.toList ++ '/' :: rest ∧ partsOf (rest.splitOn '/') ≠ [] := by
  rw [above, List.mem_map] at h
  obtain ⟨c, hc, rfl⟩ := h
  obtain ⟨before, piece, after, hpieces, hpiece, hpath, hafter⟩ :=
    exists_of_mem_dropLast (List.mem_reverse.1 hc)
  rw [List.nil_append] at hpath
  have hne : after ≠ [] := by
    rintro rfl
    exact hafter rfl
  have hrest : (['/'].intercalate after).splitOn '/' = after := by
    refine List.splitOn_intercalate _ (fun l hl => ?_) hne
    have hmem : l ∈ path.toList.splitOn '/' := by rw [hpieces]; simp [hl]
    exact Text.not_mem_of_mem_splitOn hmem
  refine ⟨by rw [hpath]; simp [hpiece], ['/'].intercalate after, ?_, by rwa [hrest]⟩
  have hwhole := flatMap_splitOn path.toList
  have hlater := flatMap_splitOn (['/'].intercalate after)
  rw [hrest] at hlater
  rw [hpieces, List.flatMap_append, List.flatMap_cons, hlater] at hwhole
  refine (List.append_left_inj ['/']).1 ?_
  rw [← hwhole, hpath]
  simp

/-! ## Endings -/

theorem stemAndEnding_dot {stem ending : List Char} (hstem : stem ≠ []) (hending : '.' ∉ ending) :
    stemAndEnding (String.ofList (stem ++ '.' :: ending)) =
      (String.ofList stem, some (String.ofList ending)) := by
  rw [stemAndEnding, String.toList_ofList, Text.cutAtLast_append hending]
  simp [hstem]

theorem exists_last_dot (h : '.' ∈ name) :
    ∃ stem ending, name = stem ++ '.' :: ending ∧ '.' ∉ ending := by
  obtain ⟨before, after, hname, hbefore⟩ := List.eq_append_cons_of_mem (List.mem_reverse.2 h)
  refine ⟨after.reverse, before.reverse, ?_, by simpa using hbefore⟩
  rw [← List.reverse_reverse name, hname]
  simp

/-- A name has an ending, or is its own stem. -/
theorem stemAndEnding_cases (name : List Char) :
    stemAndEnding (String.ofList name) = (String.ofList name, none) ∨
      ∃ stem ending, name = stem ++ '.' :: ending ∧ stem ≠ [] ∧ '.' ∉ ending := by
  by_cases hdot : '.' ∈ name
  · obtain ⟨stem, ending, rfl, hending⟩ := exists_last_dot hdot
    cases stem with
    | nil =>
      refine .inl ?_
      rw [stemAndEnding, String.toList_ofList, Text.cutAtLast_append hending]
      rfl
    | cons c stem => exact .inr ⟨c :: stem, ending, rfl, by simp, hending⟩
  · refine .inl ?_
    rw [stemAndEnding, String.toList_ofList, Text.cutAtLast_of_not_mem hdot]

/-- The ending of the last name, or nothing. -/
def oldEnding (path : String) : String := ((file? path).bind fun c => (stemAndEnding c.name).2).getD ""

/-- A path without the ending of its last name. -/
def bare (path : String) : String :=
  String.ofList (path.toList.take (path.length - (oldEnding path).length))

theorem withEnding_of_file (ending : String) {path : String} {c : Component}
    (h : file? (bare path) = some c) :
    withEnding path ending = c.front ++ (stemAndEnding c.name).1 ++ "." ++ ending := by
  rw [bare, oldEnding] at h
  unfold withEnding
  simp only [h]

theorem withEnding_of_noFile (ending : String) {path : String} (h : file? (bare path) = none) :
    withEnding path ending = bare path := by
  rw [bare, oldEnding] at h ⊢
  unfold withEnding
  simp only [h]

theorem eq_dot_of_isDots {stem kept : List Char} (hstem : stem ≠ [])
    (h : isDots (String.ofList (stem ++ '.' :: kept)) = true) : stem = ['.'] ∧ kept = [] := by
  have hname : stem ++ '.' :: kept = ['.'] ∨ stem ++ '.' :: kept = ['.', '.'] := by
    simpa [isDots, ← String.toList_inj] using h
  cases stem with
  | nil => exact absurd rfl hstem
  | cons c stem =>
    rcases hname with hname | hname
    · simp at hname
    · cases stem with
      | nil => simpa using hname
      | cons d stem => simp at hname

/-- What is cut off is as long as the ending, even if slashes follow the name. -/
theorem bare_toList {path : String} {stem old : List Char}
    (htext : path.toList = front ++ (name ++ List.replicate slashes '/'))
    (hname : name = stem ++ '.' :: old) (hending : oldEnding path = String.ofList old) :
    (bare path).toList =
      front ++ (stem ++ '.' :: (old.take slashes ++ List.replicate (slashes - old.length) '/')) := by
  have hpieces : path.toList = front ++ stem ++ ['.'] ++ (old ++ List.replicate slashes '/') := by
    rw [htext, hname]
    simp
  have hlength : path.length - (oldEnding path).length = (front ++ stem ++ ['.']).length + slashes := by
    rw [← String.length_toList, hpieces, hending, String.length_ofList]
    simp only [List.length_append, List.length_replicate]
    omega
  rw [bare, String.toList_ofList, hlength, hpieces, List.take_length_add_append, List.take_append,
    List.take_replicate, Nat.min_eq_left (Nat.sub_le _ _)]
  simp

/-- With another ending the last name becomes `new`: the stem with the ending, unless nothing but `..`
is left of the name. -/
theorem Spelled.withEnding_eq {path : String} (h : Spelled path.toList front name slashes)
    (hdots : isDots (String.ofList name) = false) (ending : String) :
    ∃ new, (withEnding path ending).toList = front ++ new ∧
      (new = ['.', '.'] ∨ new = name ++ '.' :: ending.toList ∨
        ∃ stem old, name = stem ++ '.' :: old ∧ '.' ∉ old ∧ new = stem ++ '.' :: ending.toList) := by
  have hfile := h.file?_eq hdots
  rcases stemAndEnding_cases name with hstem | ⟨stem, old, hname, hstem, hold⟩
  · have hbare : bare path = path := by
      rw [bare, oldEnding, hfile, Option.bind_some, hstem, Option.getD_none, String.length_empty,
        Nat.sub_zero, ← String.length_toList, List.take_length, String.ofList_toList]
    refine ⟨name ++ '.' :: ending.toList, ?_, .inr (.inl rfl)⟩
    rw [withEnding_of_file ending (hbare ▸ hfile), hstem]
    simp
  · have hending : oldEnding path = String.ofList old := by
      rw [oldEnding, hfile, Option.bind_some, hname, stemAndEnding_dot hstem hold, Option.getD_some]
    have hbare := bare_toList h.text hname hending
    -- With slashes behind the name the cut leaves some of the ending, which is then replaced as the
    -- ending of what is left.
    have hslashless : '/' ∉ stem ++ '.' :: old.take slashes := by
      intro hmem
      apply h.slashless
      rw [hname]
      simp only [List.mem_append, List.mem_cons] at hmem ⊢
      exact hmem.imp_right (Or.imp_right List.mem_of_mem_take)
    have hspelled : Spelled (bare path).toList front (stem ++ '.' :: old.take slashes)
        (slashes - old.length) :=
      ⟨by rw [hbare]; simp, h.front, hslashless, by simp⟩
    cases hdotted : isDots (String.ofList (stem ++ '.' :: old.take slashes)) with
    | false =>
      have hkept : '.' ∉ old.take slashes := fun hmem => hold (List.mem_of_mem_take hmem)
      refine ⟨stem ++ '.' :: ending.toList, ?_, .inr (.inr ⟨stem, old, hname, hold, rfl⟩)⟩
      rw [withEnding_of_file ending (hspelled.file?_eq hdotted), stemAndEnding_dot hstem hkept]
      simp
    | true =>
      -- The name was `..x`, and all behind its dots was cut off.
      obtain ⟨hstem, hkept⟩ := eq_dot_of_isDots hstem hdotted
      have hnone : slashes = 0 := by
        rcases List.take_eq_nil_iff.1 hkept with hslashes | hold
        · exact hslashes
        · rw [hname, hstem, hold] at hdots
          exact absurd hdots (by decide)
      subst hnone
      rw [hstem, hkept] at hspelled
      refine ⟨['.', '.'], ?_, .inl rfl⟩
      rw [withEnding_of_noFile ending hspelled.file?_up, hspelled.text]
      simp

/-- **Another ending, another name**: if the ending holds a dot and no slash, the last name of a path
is never the last name of the path with the ending. -/
theorem withEnding_names_other {path ending last : String} (hdot : '.' ∈ ending.toList)
    (hslash : '/' ∉ ending.toList) (hlast : (route path).parts.getLast? = some last)
    (hdots : isDots last = false) :
    ∃ other, (route (withEnding path ending)).parts.getLast? = some other ∧ other ≠ last := by
  obtain ⟨front, slashes, hspelled⟩ := spelled_of_last hlast
  obtain ⟨new, htext, hnew⟩ := hspelled.withEnding_eq (by rwa [String.ofList_toList]) ending
  have hfits : '/' ∉ new ∧ new ≠ [] ∧ new ≠ last.toList := by
    rcases hnew with rfl | rfl | ⟨stem, old, hname, hold, rfl⟩
    · refine ⟨by decide, by decide, ?_⟩
      intro hup
      have hlast : last = ".." := String.toList_inj.1 hup.symm
      rw [hlast] at hdots
      exact absurd hdots (by decide)
    · exact ⟨by simp [hspelled.slashless, hslash], by simp, by simp⟩
    · have hstem : '/' ∉ stem := fun hmem => hspelled.slashless (by simp [hname, hmem])
      refine ⟨by simp [hstem, hslash], by simp, ?_⟩
      rw [hname, Ne, List.append_cancel_left_eq, List.cons.injEq]
      rintro ⟨-, rfl⟩
      exact hold hdot
  have hother : Spelled (withEnding path ending).toList front new 0 :=
    ⟨by rw [htext]; simp, hspelled.front, hfits.1, hfits.2.1⟩
  refine ⟨String.ofList new, hother.last, ?_⟩
  intro hsame
  exact hfits.2.2 (by rw [← hsame, String.toList_ofList])

/-! ## Normal forms -/

/-- The last name is read from the normal form of a path. -/
theorem getLast?_splitOn_normal (here : List String) {last : String} (h : '/' ∉ last.toList) :
    ((normal (here ++ [last])).toList.splitOn '/').getLast? = some last.toList := by
  rw [normal, Text.join]
  by_cases hhere : here = []
  · rw [hhere, List.nil_append, String.intercalate_singleton, List.splitOn_eq_singleton h]
    rfl
  · have htext : ("/".intercalate (here ++ [last])).toList =
        ("/".intercalate here).toList ++ '/' :: last.toList := by
      rw [String.intercalate_append_of_ne_nil hhere (List.cons_ne_nil _ _),
        String.intercalate_singleton, String.toList_append, String.toList_append, List.append_assoc]
      rfl
    rw [htext, List.splitOn_append_cons_self, List.splitOn_eq_singleton h, List.getLast?_concat]

/-- Paths with other last names have other normal forms. -/
theorem normal_ne (here there : List String) {last other : String} (hlast : '/' ∉ last.toList)
    (hother : '/' ∉ other.toList) (hne : other ≠ last) :
    normal (there ++ [other]) ≠ normal (here ++ [last]) := by
  intro hsame
  have hnames := getLast?_splitOn_normal there hother
  rw [hsame, getLast?_splitOn_normal here hlast, Option.some.injEq] at hnames
  exact hne (String.toList_inj.1 hnames.symm)

/-- The names of a normal form are read from it. -/
theorem partsOf_normal {names : List String} (h : ∀ name ∈ names, name ≠ "" ∧ '/' ∉ name.toList) :
    partsOf ((normal names).toList.splitOn '/') = names := by
  rw [normal, Text.join]
  induction names with
  | nil => rfl
  | cons name names ih =>
    obtain ⟨hne, hslash⟩ := h name List.mem_cons_self
    have hchars : name.toList ≠ [] := by simpa using hne
    by_cases hnames : names = []
    · rw [hnames, String.intercalate_singleton, List.splitOn_eq_singleton hslash, partsOf_cons hchars,
        String.ofList_toList]
      rfl
    · have htext : ("/".intercalate (name :: names)).toList =
          name.toList ++ '/' :: ("/".intercalate names).toList := by
        rw [← List.singleton_append, String.intercalate_append_of_ne_nil (List.cons_ne_nil _ _) hnames,
          String.intercalate_singleton, String.toList_append, String.toList_append, List.append_assoc]
        rfl
      rw [htext, List.splitOn_append_cons_self_of_not_mem hslash, partsOf_cons hchars,
        String.ofList_toList, ih fun n hn => h n (List.mem_cons_of_mem _ hn)]

/-! ## The working directory -/

/-- **Spelled out.** A path that does not begin at the root leads where it leads with the working
directory in front. -/
theorem resolve_workingDirectory {fs : LocalFiles} {path : String}
    (hnames : ∀ name ∈ fs.workingDirectory, name ≠ "" ∧ '/' ∉ name.toList)
    (hroot : (route path).fromRoot = false) (haccept : accept path = .ok (route path))
    (hwhole : accept ("/" ++ normal fs.workingDirectory ++ "/" ++ path) =
      .ok (route ("/" ++ normal fs.workingDirectory ++ "/" ++ path))) :
    fs.resolve ("/" ++ normal fs.workingDirectory ++ "/" ++ path) = fs.resolve path := by
  let whole := "/" ++ normal fs.workingDirectory ++ "/" ++ path
  have htext : whole.toList = [] ++ '/' :: ((normal fs.workingDirectory).toList ++ '/' :: path.toList) := by
    simp [whole, String.toList_append]
  have hparts : (route whole).parts = fs.workingDirectory ++ (route path).parts := by
    rw [route_parts, htext, List.splitOn_append_cons_self, List.splitOn_append_cons_self, partsOf_append,
      partsOf_append, partsOf_normal hnames, route_parts]
    rfl
  have hbegin : (route whole).fromRoot = true := by simp [route, htext]
  rw [resolve, resolve, haccept, hwhole]
  show fs.walk [] (fs.start (route whole) ++ (route whole).parts) =
    fs.walk [] (fs.start (route path) ++ (route path).parts)
  rw [hparts, start, start, hbegin, hroot]
  rfl

end DebugBridge.LocalFiles
