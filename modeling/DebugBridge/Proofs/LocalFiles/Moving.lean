import DebugBridge.Proofs.LocalFiles
import DebugBridge.Proofs.LocalFiles.Paths

/-!
# Moving a file to its place

A file is written beside another path and then moved there. The move succeeds where the path names an
entry that is no directory, and then what was written is read there. Until then nothing changes at
the path: its directories are there already if it leads anywhere, and the file beside it has another
name.

Results: `read_of_rename`, `rename_of_entries`, `resolve_put_withEnding`, `makeDirectories_above`.
-/

namespace DebugBridge.LocalFiles

variable {fs fs' : LocalFiles} {path source target : String} {here names old new : List String}
  {data : Bytes}

/-! ## A move -/

/-- A move of a file that was just written, step by step. -/
theorem rename_eq (hsource : fs.Entry source old) (hnode : fs.node? old = some (.file data 0))
    (target : String) :
    fs.rename source target =
      match accept target with
      | .error e => .error e
      | .ok _ =>
        match fs.parent target with
        | .error e => .error e
        | .ok (there, newName) =>
          if isDots newName then .error .busy
          else
            match fs.step there newName with
            | .error e => .error e
            | .ok new =>
              if (route target).endsInSlash then .error .notDirectory
              else if fs.node? new = some .directory then .error .isDirectory
              else .ok ((fs.without old).put new data) := by
  obtain ⟨here, last, hparent, hstep, hdots, hslash⟩ := hsource.parent
  rw [rename, hsource.accepted]
  rcases haccept : accept target with e | r
  · rfl
  simp only [bind, Except.bind, hparent]
  rcases hthere : fs.parent target with e | ⟨there, newName⟩
  · rfl
  simp only [hdots, Bool.false_or]
  cases isDots newName with
  | true => rfl
  | false =>
    simp only [hstep, hnode]
    rcases fs.step there newName with e | new
    · rfl
    cases (route target).endsInSlash with
    | true =>
      simp only [hslash, Bool.or_true, if_true]
      rfl
    | false =>
      by_cases hdir : fs.node? new = some .directory
      · simp only [hslash, hdir, Bool.or_false, beq_self_eq_true, if_true]
        rfl
      · have hother : (fs.node? new == some .directory) = false := beq_eq_false_iff_ne.2 hdir
        simp only [hslash, hother, hdir, Bool.or_false, if_false]
        rfl

theorem namesEntry_of_last (hdots : isDots ((route path).parts.getLastD ".") = false)
    (hslash : (route path).endsInSlash = false) : namesEntry path = true := by
  simp only [namesEntry, hslash, Bool.not_false, Bool.true_and, Option.any_eq_true]
  cases hlast : (route path).parts.getLast? with
  | none =>
    rw [List.getLast?_eq_none_iff] at hlast
    rw [hlast] at hdots
    exact absurd hdots (by decide)
  | some last =>
    rw [List.getLastD_eq_getLast?, hlast, Option.getD_some] at hdots
    exact ⟨last, rfl, by rw [hdots]; rfl⟩

theorem entry_of_rename (hsource : fs.Entry source old) (hnode : fs.node? old = some (.file data 0))
    (h : fs.rename source target = .ok fs') :
    ∃ new, fs.Entry target new ∧ fs' = (fs.without old).put new data := by
  rw [rename_eq hsource hnode] at h
  split at h
  · cases h
  split at h
  · cases h
  rename_i there newName hparent
  split at h
  · cases h
  rename_i hdots
  split at h
  · cases h
  rename_i new hstep
  split at h
  · cases h
  rename_i hslash
  split at h
  · cases h
  rename_i hdir
  cases h
  obtain ⟨haccept, -, hname⟩ := parent_eq_ok hparent
  have hnamed : namesEntry target = true :=
    namesEntry_of_last (by simpa [hname] using hdots) (by simpa using hslash)
  exact ⟨new, ⟨haccept, hnamed, walk_of_parent hparent hnamed hstep, hdir⟩, rfl⟩

/-- A file that was just written can be moved to an entry that is no directory. -/
theorem rename_of_entries (hsource : fs.Entry source old) (hnode : fs.node? old = some (.file data 0))
    (htarget : fs.Entry target new) :
    fs.rename source target = .ok ((fs.without old).put new data) := by
  obtain ⟨there, newName, hparent, hstep, hdots, hslash⟩ := htarget.parent
  rw [rename_eq hsource hnode, htarget.accepted, hparent]
  simp only [hdots, hstep, hslash, htarget.notDirectory, if_false, Bool.false_eq_true]

/-- What is removed leaves every other entry. -/
theorem Entry.without (h : fs.Entry path names) (hold : fs.node? old ≠ some .directory) :
    (fs.without old).Entry path names :=
  h.congr rfl (directories_without hold) fun hdir => h.notDirectory (directory_of_without hdir)

/-- A file that is put where no directory is leaves every other entry. -/
theorem Entry.beside (h : fs.Entry path names) (hold : fs.node? old ≠ some .directory) (data : Bytes) :
    (fs.put old data).Entry path names :=
  h.congr rfl (directories_put hold data) fun hdir => h.notDirectory (directory_of_put hdir)

/-- **A move is complete**: what was written beside a path is read there after the move. -/
theorem read_of_rename (hsource : fs.Target source old)
    (h : (fs.put old data).rename source target = .ok fs') : fs'.read target = .ok data := by
  have hnode : (fs.put old data).node? old = some (.file data 0) := node?_put hsource.ne_nil data
  obtain ⟨new, htarget, rfl⟩ := entry_of_rename (hsource.put data).toEntry hnode h
  exact (htarget.without (by simp [hnode])).read_put data

/-! ## What stays where it is -/

/-- Are all the directories on the way there? -/
def Reached (fs : LocalFiles) (names : List String) : Prop :=
  ∀ way, way <+: names → way ≠ names → fs.node? way = some .directory

theorem reached_nil : fs.Reached [] := by
  intro way hway hne
  exact absurd (List.prefix_nil.1 hway) hne

theorem Reached.step {part : String} (h : fs.Reached here) (hstep : fs.step here part = .ok names) :
    fs.Reached names ∧
      (fs.node? names = some .directory ∨ isDots part = false ∧ names = here ++ [part]) := by
  have hdir := directory_of_step hstep
  have hall : ∀ way, way <+: here → fs.node? way = some .directory := by
    intro way hway
    by_cases hwhole : way = here
    · rw [hwhole, hdir]
    · exact h way hway hwhole
  rw [LocalFiles.step, hdir] at hstep
  dsimp only at hstep
  split at hstep
  · cases hstep
    exact ⟨h, .inl hdir⟩
  split at hstep
  · cases hstep
    exact ⟨fun way hway _ => hall way (hway.trans (List.dropLast_prefix here)),
      .inl (hall _ (List.dropLast_prefix here))⟩
  rename_i hdot hup
  split at hstep
  · cases hstep
    refine ⟨fun way hway hne => ?_, .inr ⟨by simp [isDots, hdot, hup], rfl⟩⟩
    rcases List.prefix_concat_iff.1 hway with hwhole | hway
    · exact absurd hwhole hne
    · exact hall way hway
  · cases hstep

theorem Reached.walk {parts : List String} (h : fs.Reached here)
    (hwalk : fs.walk here parts = .ok names) : fs.Reached names := by
  induction parts generalizing here with
  | nil =>
    cases hwalk
    exact h
  | cons part parts ih =>
    rw [LocalFiles.walk] at hwalk
    split at hwalk
    · rename_i next hstep
      exact ih (h.step hstep).1 hwalk
    · cases hwalk

/-- A walk ends in a directory, or with its last name in a directory. -/
theorem directory_or_last_of_walk {parts : List String} (h : fs.walk [] parts = .ok names) :
    fs.node? names = some .directory ∨
      ∃ here last, names = here ++ [last] ∧ parts.getLast? = some last ∧ isDots last = false := by
  rcases List.eq_nil_or_concat parts with rfl | ⟨init, last, rfl⟩
  · cases h
    exact .inl rfl
  · rw [List.concat_eq_append] at h ⊢
    obtain ⟨here, hwalk, hlast⟩ := walk_append_eq_ok h
    obtain ⟨there, hstep, hdone⟩ := walk_cons_eq_ok hlast
    cases hdone
    rcases ((reached_nil.walk hwalk).step hstep).2 with hdir | ⟨hdots, hnames⟩
    · exact .inl hdir
    · exact .inr ⟨here, last, hnames, List.getLast?_concat, hdots⟩

/-- The paths that the system takes. -/
theorem accept_eq_ok_iff :
    accept path = .ok (route path) ↔
      '\x00' ∉ path.toList ∧ path ≠ "" ∧ path.utf8ByteSize < pathSize := by
  unfold accept
  constructor
  · intro h
    split at h
    · cases h
    rename_i hnul
    split at h
    · cases h
    rename_i hempty
    split at h
    · cases h
    rename_i hsize
    exact ⟨by simpa using hnul, by simpa using hempty, by simpa using hsize⟩
  · rintro ⟨hnul, hempty, hsize⟩
    rw [if_neg (by simpa using hnul), if_neg (by simpa using hempty), if_neg (by omega)]

theorem resolve_eq_ok (h : fs.resolve path = .ok names) :
    accept path = .ok (route path) ∧
      fs.walk [] (fs.start (route path) ++ (route path).parts) = .ok names := by
  rw [resolve] at h
  cases haccept : accept path with
  | error e =>
    rw [haccept] at h
    cases h
  | ok r =>
    obtain rfl := accept_eq_ok haccept
    rw [haccept] at h
    exact ⟨rfl, h⟩

theorem resolve_of_walk (haccept : accept path = .ok (route path))
    (hwalk : fs.walk [] (fs.start (route path) ++ (route path).parts) = .ok names) :
    fs.resolve path = .ok names := by
  rw [resolve, haccept]
  exact hwalk

/-- A path leads to a directory, or to its last name in a directory. -/
theorem directory_or_last_of_path (haccept : accept path = .ok (route path))
    (hwalk : fs.walk [] (fs.start (route path) ++ (route path).parts) = .ok names) :
    fs.node? names = some .directory ∨
      ∃ here last, names = here ++ [last] ∧ (route path).parts.getLast? = some last ∧
        isDots last = false := by
  rcases directory_or_last_of_walk hwalk with hdir | ⟨here, last, hnames, hlast, hdots⟩
  · exact .inl hdir
  · rw [List.getLast?_append] at hlast
    cases hname : (route path).parts.getLast? with
    | some name =>
      rw [hname, Option.some_or] at hlast
      exact .inr ⟨here, last, hnames, hlast, hdots⟩
    | none =>
      -- Made of slashes, the path is the root.
      obtain ⟨-, hne, -⟩ := accept_eq_ok_iff.1 haccept
      have hroot := fromRoot_of_parts hne (List.getLast?_eq_none_iff.1 hname)
      rw [hname, start, if_pos hroot] at hlast
      cases hlast

theorem resolve_of_info {i : FileInfo} (h : fs.info path = .ok i) :
    ∃ names, fs.resolve path = .ok names := by
  rw [info] at h
  cases hresolve : fs.resolve path with
  | ok names => exact ⟨names, rfl⟩
  | error e =>
    rw [hresolve] at h
    cases h

theorem slashless_of_last {last : String} (h : (route path).parts.getLast? = some last) :
    '/' ∉ last.toList := by
  obtain ⟨_, _, hspelled⟩ := spelled_of_last h
  exact hspelled.slashless

/-- A file beside a path changes nothing at the path. -/
theorem resolve_put_withEnding {ending : String} (hdot : '.' ∈ ending.toList)
    (hslash : '/' ∉ ending.toList) (hbeside : fs.Target (withEnding path ending) new)
    (h : fs.resolve path = .ok names) (data : Bytes) :
    (fs.put new data).resolve path = .ok names ∧ (fs.put new data).node? names = fs.node? names := by
  obtain ⟨haccept, hwalk⟩ := resolve_eq_ok h
  have hkeep := directories_put hbeside.notDirectory data
  refine ⟨resolve_of_walk haccept (walk_of_directories hkeep hwalk), ?_⟩
  -- A directory is not replaced. Anything else has the last name of its path as its own, and so has
  -- the file beside it, whose name is another one.
  rcases directory_or_last_of_path haccept hwalk with hdir | ⟨here, last, rfl, hlast, hdots⟩
  · rw [hdir, hkeep names hdir]
  · obtain ⟨other, hother, hne⟩ := withEnding_names_other hdot hslash hlast hdots
    obtain ⟨there, other', rfl, hother', -⟩ :=
      (directory_or_last_of_path hbeside.accepted hbeside.leads).resolve_left hbeside.notDirectory
    rw [hother, Option.some.injEq] at hother'
    subst hother'
    exact node?_put_of_ne
      (normal_ne here there (slashless_of_last hlast) (slashless_of_last hother) hne) data

theorem info_congr (h : fs.resolve path = .ok names) (h' : fs'.resolve path = .ok names)
    (hnode : fs'.node? names = fs.node? names) : fs'.info path = fs.info path := by
  rw [info, info, h, h']
  simp only [bind, Except.bind, hnode]

theorem read_congr (h : fs.resolve path = .ok names) (h' : fs'.resolve path = .ok names)
    (hnode : fs'.node? names = fs.node? names) : fs'.read path = fs.read path := by
  rw [read, read, h, h', info_congr h h' hnode]
  simp only [bind, Except.bind, hnode]

/-! ## The directories above -/

/-- Where a path leads anywhere, the directories above it are there. -/
theorem isDirectory_of_mem_above {up : String} (h : fs.resolve path = .ok names)
    (hup : up ∈ above path) : fs.isDirectory up = true := by
  obtain ⟨haccept, hwalk⟩ := resolve_eq_ok h
  obtain ⟨hnul, -, hsize⟩ := accept_eq_ok_iff.1 haccept
  obtain ⟨hne, rest, hpath, hrest⟩ := exists_rest_of_mem_above hup
  have hacceptUp : accept up = .ok (route up) := by
    have hwhole : path = up ++ String.ofList ('/' :: rest) := by
      rw [← String.toList_inj, hpath, String.toList_append, String.toList_ofList]
    refine accept_eq_ok_iff.2 ⟨fun hmem => hnul (by simp [hpath, hmem]), ?_, ?_⟩
    · rintro rfl
      exact hne rfl
    · rw [hwhole, String.utf8ByteSize_append] at hsize
      omega
  have hstart : fs.start (route path) = fs.start (route up) := by
    obtain ⟨c, cs, hup⟩ := List.exists_cons_of_ne_nil hne
    simp only [start, route, hpath, hup, List.cons_append, List.head?_cons]
  have hparts : (route path).parts = (route up).parts ++ partsOf (rest.splitOn '/') := by
    rw [route_parts, hpath, List.splitOn_append_cons_self, partsOf_append, route_parts]
  rw [hstart, hparts, ← List.append_assoc] at hwalk
  obtain ⟨there, hthere, hmore⟩ := walk_append_eq_ok hwalk
  have hdir : fs.node? there = some .directory := by
    cases hnames : partsOf (rest.splitOn '/') with
    | nil => exact absurd hnames hrest
    | cons part parts =>
      rw [hnames] at hmore
      obtain ⟨next, hstep, -⟩ := walk_cons_eq_ok hmore
      exact directory_of_step hstep
  rw [isDirectory, info, resolve_of_walk hacceptUp hthere]
  simp only [bind, Except.bind, hdir]
  rfl

theorem makeDirectory_of_isDirectory (h : fs.isDirectory path = true) :
    fs.makeDirectory path = .error .exists := by
  rw [isDirectory, info] at h
  cases hresolve : fs.resolve path with
  | error e =>
    rw [hresolve] at h
    cases h
  | ok names =>
    rw [makeDirectory, hresolve]
    rw [hresolve] at h
    simp only [bind, Except.bind] at h ⊢
    cases hnode : fs.node? names with
    | none =>
      rw [hnode] at h
      cases h
    | some node => rfl

/-- **Nothing is made** where a path leads anywhere. -/
theorem makeDirectories_above (h : fs.resolve path = .ok names) :
    fs.makeDirectories (above path) = (.ok (), fs) := by
  cases habove : above path with
  | nil => rfl
  | cons up others =>
    have hdir := isDirectory_of_mem_above h (habove ▸ List.mem_cons_self)
    rw [makeDirectories]
    simp only [makeDirectory_of_isDirectory hdir, hdir, if_true]

end DebugBridge.LocalFiles
