import DebugBridge.Package.Install
import DebugBridge.Proofs.LocalFiles.Paths

/-!
# Where a package is staged

A path is a front, a last component, and a tail of slashes and dots that says nothing (`EndsIn`), unless
it has no component at all (`IsNameless`). If the last component is no `..`, it is the name of a file, and
the package is staged under this name in the staging directory: the name has no slash and does not stand
for a directory, so the staged path leads nowhere else.

Results:
* `exists_endsIn`, every path is nameless or has a last component;
* `lastComponent?_eq_some_iff`, `lastComponent?_eq_none_iff`, which component is found;
* `route_staged`, a staged path leads to the staging directory and to a name in it;
* `stagedPath_contained`, where a package is staged, when it cannot be, and what does not matter.
-/

namespace DebugBridge

open LocalFiles (IsFront partsOf route route_of_name)

variable {front tail : List Char} {path last name : String}

/-- What says nothing at the end of a path: slashes, and dots that stand each behind a slash. -/
inductive IsTail : List Char → Prop
  | nil : IsTail []
  | slash {tail : List Char} : IsTail tail → IsTail ('/' :: tail)
  | dot {tail : List Char} : IsTail tail → IsTail ('/' :: '.' :: tail)

/-- A path without a component: it is empty, or has nothing but slashes and single dots between them. -/
def IsNameless (path : String) : Prop :=
  IsTail path.toList ∨ ∃ tail, path.toList = '.' :: tail ∧ IsTail tail

/-- The path ends in a component, but for a tail that says nothing. -/
def EndsIn (path last : String) : Prop :=
  ∃ front tail, path.toList = front ++ (last.toList ++ tail) ∧ IsFront front ∧ IsTail tail

/-- Is a text one component of a path? It may be `..`. -/
structure IsComponent (last : String) : Prop where
  slashless : '/' ∉ last.toList
  nonempty : last ≠ ""
  not_dot : last ≠ "."

/-- Can a file in a directory have this name? -/
structure IsFileName (name : String) : Prop extends IsComponent name where
  not_dots : name ≠ ".."

/-! ## The pieces that count -/

/-- The pieces between the slashes that are neither empty nor `.`. -/
def counted (cs : List Char) : List (List Char) :=
  (cs.splitOn '/').filter fun piece => ! piece.isEmpty && piece != ['.']

theorem lastComponent?_eq (path : String) : lastComponent? path =
    match (counted path.toList).getLast? with
    | some piece => if piece = ['.', '.'] then none else some (String.ofList piece)
    | none => none := rfl

theorem counted_append_cons (cs ds : List Char) :
    counted (cs ++ '/' :: ds) = counted cs ++ counted ds := by
  rw [counted, List.splitOn_append_cons_self, List.filter_append, counted, counted]

theorem counted_front (h : IsFront front) (rest : List Char) :
    counted (front ++ rest) = counted front ++ counted rest := by
  have hnil : counted [] = [] := rfl
  rcases h with rfl | ⟨dir, rfl⟩
  · rw [hnil, List.nil_append, List.nil_append]
  · rw [List.append_assoc, List.singleton_append, counted_append_cons, counted_append_cons, hnil,
      List.append_nil]

theorem counted_component (h : IsComponent last) : counted last.toList = [last.toList] := by
  have hdot : last.toList ≠ ['.'] := fun hdot => h.not_dot (String.toList_inj.1 hdot)
  rw [counted, List.splitOn_eq_singleton h.slashless, List.filter_eq_self]
  simp [h.nonempty, hdot]

/-- No piece of a tail counts. -/
theorem counted_append_tail (h : IsTail tail) (cs : List Char) : counted (cs ++ tail) = counted cs := by
  induction h generalizing cs with
  | nil => rw [List.append_nil]
  | slash _ ih =>
    have hrest := ih []
    rw [List.nil_append] at hrest
    rw [counted_append_cons, hrest]
    exact List.append_nil _
  | dot _ ih =>
    have hrest := ih ['.']
    rw [List.singleton_append] at hrest
    rw [counted_append_cons, hrest]
    exact List.append_nil _

theorem counted_nameless (h : IsNameless path) : counted path.toList = [] := by
  rcases h with htail | ⟨tail, hpath, htail⟩
  · exact counted_append_tail htail []
  · rw [hpath]
    exact counted_append_tail htail ['.']

/-! ## The last component -/

/-- The component that a path ends in is its last piece that counts. -/
theorem EndsIn.getLast?_counted (h : EndsIn path last) (hlast : IsComponent last) :
    (counted path.toList).getLast? = some last.toList := by
  obtain ⟨front, tail, hpath, hfront, htail⟩ := h
  rw [hpath, counted_front hfront, counted_append_tail htail, counted_component hlast,
    List.getLast?_concat]

theorem exists_front_and_tail (cs : List Char) :
    (IsTail cs ∨ ∃ tail, cs = '.' :: tail ∧ IsTail tail) ∨
      ∃ front last tail, cs = front ++ (last ++ tail) ∧ IsFront front ∧ IsTail tail ∧
        '/' ∉ last ∧ last ≠ [] ∧ last ≠ ['.'] := by
  -- A character before a path goes to its tail, to its first component, or to its front.
  induction cs with
  | nil => exact .inl (.inl .nil)
  | cons c cs ih =>
    by_cases hc : c = '/'
    · subst hc
      rcases ih with (htail | ⟨tail, rfl, htail⟩) | ⟨front, last, tail, rfl, hfront, hrest⟩
      · exact .inl (.inl htail.slash)
      · exact .inl (.inl htail.dot)
      · refine .inr ⟨'/' :: front, last, tail, rfl, .inr ?_, hrest⟩
        rcases hfront with rfl | ⟨dir, rfl⟩
        · exact ⟨[], rfl⟩
        · exact ⟨'/' :: dir, rfl⟩
    · have hslash : ¬ '/' = c := Ne.symm hc
      rcases ih with (htail | ⟨tail, rfl, htail⟩) | ⟨front, last, tail, rfl, hfront, htail, hlast⟩
      · by_cases hdot : c = '.'
        · exact .inl (.inr ⟨cs, by rw [hdot], htail⟩)
        · exact .inr ⟨[], [c], cs, rfl, .inl rfl, htail, by simp [hslash], by simp, by simp [hdot]⟩
      · exact .inr ⟨[], [c, '.'], tail, rfl, .inl rfl, htail, by simp [hslash], by simp, by simp⟩
      · rcases hfront with rfl | ⟨dir, rfl⟩
        · exact .inr ⟨[], c :: last, tail, rfl, .inl rfl, htail, by simp [hslash, hlast.1], by simp,
            by simp [hlast.2.1]⟩
        · exact .inr ⟨c :: (dir ++ ['/']), last, tail, rfl, .inr ⟨c :: dir, rfl⟩, htail, hlast⟩

/-- Every path is nameless or ends in a component. -/
theorem exists_endsIn (path : String) :
    IsNameless path ∨ ∃ last, IsComponent last ∧ EndsIn path last := by
  refine (exists_front_and_tail path.toList).imp_right ?_
  rintro ⟨front, last, tail, hpath, hfront, htail, hslash, hne, hdot⟩
  refine ⟨String.ofList last, ⟨?_, ?_, ?_⟩, front, tail, ?_, hfront, htail⟩
  · rwa [String.toList_ofList]
  · simpa [← String.toList_inj] using hne
  · simpa [← String.toList_inj] using hdot
  · rwa [String.toList_ofList]

/-- A component is found exactly if the path ends in it and it is the name of a file. -/
theorem lastComponent?_eq_some_iff :
    lastComponent? path = some name ↔ IsFileName name ∧ EndsIn path name := by
  constructor
  · intro h
    rcases exists_endsIn path with hnone | ⟨last, hlast, hends⟩
    · rw [lastComponent?_eq, counted_nameless hnone] at h
      cases h
    · rw [lastComponent?_eq, hends.getLast?_counted hlast] at h
      simp only [String.ofList_toList] at h
      split at h
      · cases h
      · obtain rfl := Option.some.inj h
        rename_i hdots
        exact ⟨⟨hlast, fun h => hdots (by rw [h]; rfl)⟩, hends⟩
  · rintro ⟨hname, hends⟩
    have hdots : name.toList ≠ ['.', '.'] := fun h => hname.not_dots (String.toList_inj.1 h)
    rw [lastComponent?_eq, hends.getLast?_counted hname.toIsComponent]
    simp only [hdots, if_false, String.ofList_toList]

theorem isComponent_up : IsComponent ".." := ⟨by decide, by decide, by decide⟩

/-- None is found exactly if the path has none or ends in `..`. -/
theorem lastComponent?_eq_none_iff :
    lastComponent? path = none ↔ IsNameless path ∨ EndsIn path ".." := by
  constructor
  · intro h
    rcases exists_endsIn path with hnone | ⟨last, hlast, hends⟩
    · exact .inl hnone
    · by_cases hdots : last = ".."
      · exact .inr (hdots ▸ hends)
      · rw [lastComponent?_eq_some_iff.2 ⟨⟨hlast, hdots⟩, hends⟩] at h
        cases h
  · rintro (hnone | hends)
    · rw [lastComponent?_eq, counted_nameless hnone]
      rfl
    · rw [lastComponent?_eq, hends.getLast?_counted isComponent_up]
      rfl

/-- A tail does not matter, neither at the end of a path nor before another slash. -/
theorem lastComponent?_append_tail {tail : String} (h : IsTail tail.toList) (path : String) :
    lastComponent? (path ++ tail) = lastComponent? path ∧
      ∀ rest, lastComponent? (path ++ tail ++ "/" ++ rest) = lastComponent? (path ++ "/" ++ rest) := by
  refine ⟨?_, fun rest => ?_⟩
  · rw [lastComponent?_eq, lastComponent?_eq, String.toList_append, counted_append_tail h]
  · have hslash : "/".toList = ['/'] := rfl
    simp only [lastComponent?_eq, String.toList_append, hslash, List.append_assoc,
      List.singleton_append]
    rw [← List.append_assoc, counted_append_cons, counted_append_tail h, counted_append_cons]

/-! ## Staged paths -/

theorem stagedPath_eq (path : String) : stagedPath path =
    match lastComponent? path with
    | some name => .ok ("/data/local/tmp/" ++ name)
    | none => .error (.installFailed ("Invalid package path: " ++ path)) := by
  have hdir : stagingDirectory ++ "/" = "/data/local/tmp/" := by decide
  rw [stagedPath, ← hdir]
  rfl

theorem stagedPath_eq_ok_iff {r : String} : stagedPath path = .ok r ↔
    ∃ name, lastComponent? path = some name ∧ r = "/data/local/tmp/" ++ name := by
  rw [stagedPath_eq]
  cases lastComponent? path with
  | none => simp
  | some name => simp [eq_comm]

theorem stagedPath_eq_error_iff {e : Error} : stagedPath path = .error e ↔
    lastComponent? path = none ∧ e = .installFailed ("Invalid package path: " ++ path) := by
  rw [stagedPath_eq]
  cases lastComponent? path with
  | none => simp [eq_comm]
  | some name => simp

/-- Paths with the same last component are staged alike. -/
theorem toOption_stagedPath_congr {other : String} (h : lastComponent? path = lastComponent? other) :
    (stagedPath path).toOption = (stagedPath other).toOption := by
  rw [stagedPath_eq, stagedPath_eq, h]
  cases lastComponent? other <;> rfl

/-- A staged path leads from the root to the staging directory, and there to the file's name. -/
theorem route_staged (h : IsFileName name) :
    route ("/data/local/tmp/" ++ name) = ⟨true, ["data", "local", "tmp", name], false⟩ := by
  have htext : ("/data/local/tmp/" ++ name).toList = "/data/local/tmp".toList ++ '/' :: name.toList := by
    rw [String.toList_append]
    rfl
  have hdirs : partsOf ("/data/local/tmp".toList.splitOn '/') = ["data", "local", "tmp"] := by decide
  rw [route_of_name htext h.slashless h.nonempty, hdirs, htext]
  rfl

/-- **Main theorem.** A package is staged exactly if its path ends in the name of a file, and then under
this name in the staging directory: the name is not empty, has no slash and is neither `.` nor `..`, so
the staged path leads to the staging directory and to a name in it. The only other outcome is a failed
installation, exactly for the paths without a component and those that end in `..`. Slashes at the end,
repeated slashes, and dots behind slashes do not matter. -/
theorem stagedPath_contained (path : String) :
    (∀ r, stagedPath path = .ok r ↔
      ∃ name, IsFileName name ∧ EndsIn path name ∧ r = "/data/local/tmp/" ++ name) ∧
    (∀ r, stagedPath path = .ok r → ∃ name, IsFileName name ∧
      route r = ⟨true, ["data", "local", "tmp", name], false⟩) ∧
    (∀ e, stagedPath path = .error e ↔ (IsNameless path ∨ EndsIn path "..") ∧
      e = .installFailed ("Invalid package path: " ++ path)) ∧
    (∀ tail : String, IsTail tail.toList →
      (stagedPath (path ++ tail)).toOption = (stagedPath path).toOption ∧
      ∀ rest, (stagedPath (path ++ tail ++ "/" ++ rest)).toOption =
        (stagedPath (path ++ "/" ++ rest)).toOption) := by
  refine ⟨fun r => ?_, fun r hr => ?_, fun e => ?_, fun tail htail => ?_⟩
  · simp only [stagedPath_eq_ok_iff, lastComponent?_eq_some_iff, and_assoc]
  · obtain ⟨name, hname, rfl⟩ := stagedPath_eq_ok_iff.1 hr
    have hfile := (lastComponent?_eq_some_iff.1 hname).1
    exact ⟨name, hfile, route_staged hfile⟩
  · rw [stagedPath_eq_error_iff, lastComponent?_eq_none_iff]
  · obtain ⟨hend, hbetween⟩ := lastComponent?_append_tail htail path
    exact ⟨toOption_stagedPath_congr hend, fun rest => toOption_stagedPath_congr (hbetween rest)⟩

/-- The package is staged under its name, and with slashes and dots behind the name it still is. -/
theorem stagedPath_contained_trailing :
    IsFileName "app.apk" ∧ EndsIn "apks/../app.apk" "app.apk" ∧
      stagedPath "apks/../app.apk" = .ok "/data/local/tmp/app.apk" ∧
      IsTail "/.//".toList ∧
      (stagedPath ("apks/../app.apk" ++ "/.//")).toOption = some "/data/local/tmp/app.apk" := by
  obtain ⟨hok, -, -, htail⟩ := stagedPath_contained "apks/../app.apk"
  have hname : IsFileName "app.apk" := ⟨⟨by decide, by decide, by decide⟩, by decide⟩
  have hends : EndsIn "apks/../app.apk" "app.apk" :=
    ⟨"apks/../".toList, [], by decide, .inr ⟨"apks/..".toList, by decide⟩, .nil⟩
  have hstaged : stagedPath "apks/../app.apk" = .ok "/data/local/tmp/app.apk" :=
    (hok _).2 ⟨"app.apk", hname, hends, by decide⟩
  have htrailing : IsTail "/.//".toList := .dot (.slash (.slash .nil))
  refine ⟨hname, hends, hstaged, htrailing, ?_⟩
  rw [(htail "/.//" htrailing).1, hstaged]
  rfl

end DebugBridge
