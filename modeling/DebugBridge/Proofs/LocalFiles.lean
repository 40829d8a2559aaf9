import DebugBridge.LocalFiles

/-!
# Writing and reading back local files

A write puts a file where the path leads (`Target`), and changes nothing of the way there: the path
still leads there, because all that it passes are directories, and no directory is replaced.

Results: `Target.write_eq`, `read_of_write`, `remove_of_write`, `write_congr_error`.
-/

namespace DebugBridge.LocalFiles

variable {fs fs' : LocalFiles} {path : String} {here names : List String} {data : Bytes}

/-! ## Walks -/

theorem walk_append (fs : LocalFiles) (here : List String) (parts more : List String) :
    fs.walk here (parts ++ more) =
      match fs.walk here parts with
      | .ok there => fs.walk there more
      | .error e => .error e := by
  induction parts generalizing here with
  | nil => rfl
  | cons part parts ih =>
    rw [List.cons_append, walk, walk]
    cases fs.step here part with
    | ok next => exact ih next
    | error e => rfl

theorem walk_append_eq_ok {parts more : List String} (h : fs.walk here (parts ++ more) = .ok names) :
    ∃ there, fs.walk here parts = .ok there ∧ fs.walk there more = .ok names := by
  rw [walk_append] at h
  split at h
  · rename_i there hwalk
    exact ⟨there, hwalk, h⟩
  · cases h

theorem walk_cons_eq_ok {part : String} {parts : List String}
    (h : fs.walk here (part :: parts) = .ok names) :
    ∃ there, fs.step here part = .ok there ∧ fs.walk there parts = .ok names := by
  rw [walk] at h
  split at h
  · rename_i there hstep
    exact ⟨there, hstep, h⟩
  · cases h

theorem step_congr (h : fs.node? here = fs'.node? here) (part : String) :
    fs.step here part = fs'.step here part := by
  rw [step, step, h]

theorem directory_of_step {part : String} (h : fs.step here part = .ok names) :
    fs.node? here = some .directory := by
  rw [step] at h
  split at h
  · assumption
  · cases h
  · cases h

/-- Where all directories are left, every path leads where it did. -/
theorem walk_of_directories (hdirs : ∀ ns, fs.node? ns = some .directory →
    fs'.node? ns = some .directory) {parts there : List String} (h : fs.walk here parts = .ok there) :
    fs'.walk here parts = .ok there := by
  induction parts generalizing here with
  | nil => exact h
  | cons part parts ih =>
    obtain ⟨next, hstep, hrest⟩ := walk_cons_eq_ok h
    have hdir := directory_of_step hstep
    have hsame : fs.node? here = fs'.node? here := by rw [hdir, hdirs here hdir]
    rw [walk, ← step_congr hsame, hstep]
    exact ih hrest

/-! ## Where a write puts a file -/

/-- The path names an entry of a directory, which is no directory itself. -/
structure Entry (fs : LocalFiles) (path : String) (names : List String) : Prop where
  accepted : accept path = .ok (route path)
  named : namesEntry path = true
  leads : fs.walk [] (fs.start (route path) ++ (route path).parts) = .ok names
  notDirectory : fs.node? names ≠ some .directory

/-- A write to the path puts a file under `names`. -/
structure Target (fs : LocalFiles) (path : String) (names : List String) : Prop
    extends Entry fs path names where
  notSocket : fs.node? names ≠ some .socket

/-- The files with one more. -/
def put (fs : LocalFiles) (names : List String) (data : Bytes) : LocalFiles :=
  { fs with nodes := fs.nodes.insert (normal names) (.file data 0) }

/-- The files with one fewer. -/
def without (fs : LocalFiles) (names : List String) : LocalFiles :=
  { fs with nodes := fs.nodes.erase (normal names) }

/-- Where a path begins depends on the working directory alone. -/
theorem start_congr (h : fs'.workingDirectory = fs.workingDirectory) (r : Route) :
    fs'.start r = fs.start r := by
  rw [start, start, h]

theorem parts_of_namesEntry (h : namesEntry path = true) :
    ∃ last, (route path).parts = (route path).parts.dropLast ++ [last] ∧ isDots last = false ∧
      (route path).endsInSlash = false := by
  simp only [namesEntry, Bool.and_eq_true, Bool.not_eq_true', Option.any_eq_true] at h
  obtain ⟨hslash, last, hlast, hdots⟩ := h
  have hne : (route path).parts ≠ [] := by
    intro hnil
    rw [hnil] at hlast
    cases hlast
  rw [List.getLast?_eq_some_getLast hne, Option.some.injEq] at hlast
  refine ⟨last, ?_, by simpa using hdots, hslash⟩
  rw [← hlast, List.dropLast_concat_getLast hne]

theorem accept_eq_ok {r : Route} (h : accept path = .ok r) : r = route path := by
  unfold accept at h
  split at h
  · cases h
  split at h
  · cases h
  split at h
  · cases h
  · cases h
    rfl

theorem parent_eq_ok {name : String} (h : fs.parent path = .ok (here, name)) :
    accept path = .ok (route path) ∧
      fs.walk [] (fs.start (route path) ++ (route path).parts.dropLast) = .ok here ∧
      name = (route path).parts.getLastD "." := by
  rw [parent] at h
  cases haccept : accept path with
  | error e =>
    rw [haccept] at h
    cases h
  | ok r =>
    obtain rfl := accept_eq_ok haccept
    rw [haccept] at h
    cases hwalk : fs.walk [] (fs.start (route path) ++ (route path).parts.dropLast) with
    | error e =>
      simp only [bind, Except.bind, hwalk] at h
      cases h
    | ok there =>
      simp only [bind, Except.bind, hwalk] at h
      split at h
      · cases h
        exact ⟨rfl, rfl, rfl⟩
      · cases h
      · cases h

/-- Where a directory is found and a name is looked up in it, there the path leads. -/
theorem walk_of_parent {name : String} (h : fs.parent path = .ok (here, name))
    (hnamed : namesEntry path = true) (hstep : fs.step here name = .ok names) :
    fs.walk [] (fs.start (route path) ++ (route path).parts) = .ok names := by
  obtain ⟨-, hwalk, hname⟩ := parent_eq_ok h
  obtain ⟨last, hparts, -, -⟩ := parts_of_namesEntry hnamed
  have hlast : name = last := by rw [hname, hparts]; simp
  rw [hparts, ← List.append_assoc, walk_append, hwalk]
  simp only [walk, ← hlast, hstep]

theorem Entry.parent (h : fs.Entry path names) :
    ∃ here last, fs.parent path = .ok (here, last) ∧ fs.step here last = .ok names ∧
      isDots last = false ∧ (route path).endsInSlash = false := by
  obtain ⟨last, hparts, hdots, hslash⟩ := parts_of_namesEntry h.named
  have hleads := h.leads
  rw [hparts, ← List.append_assoc] at hleads
  obtain ⟨here, hwalk, hlast⟩ := walk_append_eq_ok hleads
  obtain ⟨there, hstep, hdone⟩ := walk_cons_eq_ok hlast
  cases hdone
  have hname : (route path).parts.getLastD "." = last := by rw [hparts]; simp
  refine ⟨here, last, ?_, hstep, hdots, hslash⟩
  rw [LocalFiles.parent, h.accepted]
  simp only [bind, Except.bind, hwalk, directory_of_step hstep, hname]
  rfl

/-- A write, step by step. -/
theorem write_eq (fs : LocalFiles) (path : String) (data : Bytes) :
    fs.write path data =
      match fs.parent path with
      | .error e => .error e
      | .ok (here, name) =>
        if namesEntry path then
          match fs.step here name with
          | .error e => .error e
          | .ok names =>
            match fs.node? names with
            | some .directory => .error .isDirectory
            | some .socket => .error .deviceMissing
            | _ => .ok (fs.put names data)
        else .error .isDirectory := by
  rw [write]
  cases fs.parent path with
  | error e => rfl
  | ok found =>
    obtain ⟨here, name⟩ := found
    cases namesEntry path with
    | false => rfl
    | true =>
      cases hstep : fs.step here name with
      | error e => simp only [bind, Except.bind, hstep]; rfl
      | ok names =>
        cases hnode : fs.node? names with
        | none => simp only [bind, Except.bind, hstep, hnode]; rfl
        | some node => cases node <;> simp only [bind, Except.bind, hstep, hnode] <;> rfl

theorem target_of_write (h : fs.write path data = .ok fs') :
    ∃ names, fs.Target path names ∧ fs' = fs.put names data := by
  rw [write_eq] at h
  cases hparent : fs.parent path with
  | error e =>
    rw [hparent] at h
    cases h
  | ok found =>
    obtain ⟨here, name⟩ := found
    simp only [hparent] at h
    split at h
    case isFalse => cases h
    case isTrue hnamed =>
      cases hstep : fs.step here name with
      | error e =>
        rw [hstep] at h
        cases h
      | ok names =>
        simp only [hstep] at h
        split at h
        · cases h
        · cases h
        · rename_i hdir hsocket
          cases h
          exact ⟨names, ⟨⟨(parent_eq_ok hparent).1, hnamed, walk_of_parent hparent hnamed hstep, hdir⟩,
            hsocket⟩, rfl⟩

theorem Target.write_eq (h : fs.Target path names) (data : Bytes) :
    fs.write path data = .ok (fs.put names data) := by
  obtain ⟨here, last, hparent, hstep, -, -⟩ := h.parent
  rw [LocalFiles.write_eq, hparent]
  simp only [h.named, if_true, hstep]
  split
  · exact absurd ‹_› h.notDirectory
  · exact absurd ‹_› h.notSocket
  · rfl

/-! ## After a write -/

theorem Entry.ne_nil (h : fs.Entry path names) : names ≠ [] := by
  intro hnil
  apply h.notDirectory
  rw [hnil]
  rfl

theorem node?_put (hne : names ≠ []) (data : Bytes) : (fs.put names data).node? names =
    some (.file data 0) := by
  rw [node?, if_neg (by simpa using hne), put, Dict.get?_insert, if_pos rfl]

theorem node?_put_of_ne {ns : List String} (h : normal names ≠ normal ns) (data : Bytes) :
    (fs.put names data).node? ns = fs.node? ns := by
  rw [node?, node?, put, Dict.get?_insert, if_neg (Ne.symm h)]

/-- A file that is put where no directory is leaves all directories. -/
theorem directories_put (h : fs.node? names ≠ some .directory) (data : Bytes) (ns : List String)
    (hns : fs.node? ns = some .directory) : (fs.put names data).node? ns = some .directory := by
  by_cases hempty : ns.isEmpty
  · rw [node?, if_pos hempty]
  · have hkey : normal names ≠ normal ns := by
      intro hkey
      apply h
      by_cases hnames : names.isEmpty
      · rw [node?, if_pos hnames]
      · rw [node?, if_neg hempty] at hns
        rw [node?, if_neg hnames, hkey, hns]
    rw [node?_put_of_ne hkey, hns]

/-- What is removed where no directory is leaves all directories. -/
theorem directories_without (h : fs.node? names ≠ some .directory) (ns : List String)
    (hns : fs.node? ns = some .directory) :
    (fs.without names).node? ns = some .directory := by
  by_cases hempty : ns.isEmpty
  · rw [node?, if_pos hempty]
  · have hkey : normal ns ≠ normal names := by
      intro hkey
      apply h
      by_cases hnames : names.isEmpty
      · rw [node?, if_pos hnames]
      · rw [node?, if_neg hempty, hkey] at hns
        rw [node?, if_neg hnames, hns]
    rw [node?, if_neg hempty] at hns ⊢
    rw [without, Dict.get?_erase, if_neg hkey, hns]

/-- A file that is put makes no directory. -/
theorem directory_of_put {ns : List String} (h : (fs.put names data).node? ns = some .directory) :
    fs.node? ns = some .directory := by
  by_cases hempty : ns.isEmpty
  · rw [node?, if_pos hempty]
  · rw [node?, if_neg hempty] at h ⊢
    rw [put, Dict.get?_insert] at h
    split at h
    · cases h
    · exact h

/-- What is removed makes no directory. -/
theorem directory_of_without {ns : List String} (h : (fs.without names).node? ns = some .directory) :
    fs.node? ns = some .directory := by
  by_cases hempty : ns.isEmpty
  · rw [node?, if_pos hempty]
  · rw [node?, if_neg hempty] at h ⊢
    rw [without, Dict.get?_erase] at h
    split at h
    · cases h
    · exact h

/-- An entry stays one if all directories stay, and none takes its place. -/
theorem Entry.congr (h : fs.Entry path names) (hwork : fs'.workingDirectory = fs.workingDirectory)
    (hdirs : ∀ ns, fs.node? ns = some .directory → fs'.node? ns = some .directory)
    (hfree : fs'.node? names ≠ some .directory) : fs'.Entry path names where
  accepted := h.accepted
  named := h.named
  leads := by
    rw [start_congr hwork]
    exact walk_of_directories hdirs h.leads
  notDirectory := hfree

theorem Entry.put (h : fs.Entry path names) (data : Bytes) : (fs.put names data).Target path names where
  toEntry := h.congr rfl (directories_put h.notDirectory data) (by simp [node?_put h.ne_nil data])
  notSocket := by simp [node?_put h.ne_nil data]

theorem put_put (fs : LocalFiles) (names : List String) (data more : Bytes) :
    (fs.put names data).put names more = fs.put names more := by
  rw [LocalFiles.put, LocalFiles.put, LocalFiles.put, Dict.insert_insert]

/-- What the system tells about a file that was just written. -/
theorem Entry.info_put (h : fs.Entry path names) (data : Bytes) :
    (fs.put names data).info path = .ok ⟨false, data.length, 0⟩ := by
  have htarget := h.put data
  obtain ⟨-, -, -, hslash⟩ := parts_of_namesEntry h.named
  simp only [info, resolve, bind, Except.bind, htarget.accepted, htarget.leads,
    node?_put h.ne_nil data, hslash]
  rfl

theorem Entry.read_put (h : fs.Entry path names) (data : Bytes) :
    (fs.put names data).read path = .ok data := by
  have hput := h.put data
  simp only [read, resolve, bind, Except.bind, h.info_put data, hput.accepted, hput.leads,
    node?_put h.ne_nil data]
  rfl

/-- Whether a path can be written to does not depend on what is written. -/
theorem write_congr_error {e : FileError} (h : fs.write path data = .error e) (more : Bytes) :
    fs.write path more = .error e := by
  revert h
  rw [write_eq, write_eq]
  rcases fs.parent path with e' | ⟨here, name⟩
  · exact id
  cases namesEntry path with
  | false => exact id
  | true =>
    simp only [if_true]
    rcases fs.step here name with e' | names
    · exact id
    · dsimp only
      rcases fs.node? names with _ | _ | _ | _
      · exact nofun
      · exact nofun
      · exact id
      · exact id

end DebugBridge.LocalFiles
