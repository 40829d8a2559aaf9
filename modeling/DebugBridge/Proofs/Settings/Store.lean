import DebugBridge.Proofs.LocalFiles.Moving
import DebugBridge.Proofs.Settings.Document
import DebugBridge.Proofs.Text.Utf8
import DebugBridge.Settings.Store

/-!
# Saved settings are loaded again

A save ends in one of five ways (`SaveEnds`): only the last one moves a document to the path, and by
then it holds the settings. In the others at most a file beside the path was written.

Results: `load_of_save`, `info_and_read_of_refused`, `save_ok_iff`, `save_and_load`.
-/

namespace DebugBridge.Settings

open LocalFiles (above)

variable {s : Settings}

/-! ## The document -/

/-- The document for settings that one can hold. -/
def document (s : Settings) : String := preamble ++ String.ofList (Toml.writeSections s.sections)

theorem document?_eq (s : Settings) : document? s = if s.Storable then some s.document else none := by
  rw [document?, sections?_eq]
  by_cases h : s.Storable
  · rw [if_pos h, if_pos h]
    rfl
  · rw [if_neg h, if_neg h]
    rfl

/-- The comment that stands in front. -/
def remark : List Char := " adbridge configuration".toList

theorem toList_preamble : preamble.toList = '#' :: (remark ++ ['\n', '\n']) := by decide

theorem toList_document (s : Settings) :
    s.document.toList = '#' :: (remark ++ '\n' :: '\n' :: Toml.writeSections s.sections) := by
  rw [document, String.toList_append, toList_preamble, String.toList_ofList, List.cons_append,
    List.append_assoc, List.cons_append, List.cons_append, List.nil_append]

theorem parse_document (h : s.Storable) :
    Toml.parse s.document = some (.table (s.sections.map fun g => (g.name, tableOf g))) := by
  have hnames : (s.sections.map (·.name)).Nodup := by
    simp [sections, daemonSection, timeoutSection, monitorSection]
  have hremark : ∀ c ∈ remark, Toml.isPlain c = true := List.all_eq_true.1 (by decide)
  rw [← String.ofList_toList (s := s.document), toList_document]
  exact Toml.parse_document hremark (fits_of_mem_sections h) hnames

/-- The settings are read back from their document. -/
theorem ofBytes?_document (h : s.Storable) : ofBytes? (Bytes.ofString s.document) = some s := by
  rw [ofBytes?, Utf8.text?_ofString]
  dsimp only
  rw [parse_document h, Option.bind_some, ofToml?_sections]

/-! ## How a save ends -/

/-- The ways in which a save ends, each with its answer and the files that it leaves. -/
inductive SaveEnds (fs : LocalFiles) (path : String) (s : Settings) :
    Except Error Unit × LocalFiles → Prop
  | noDirectory {made : LocalFiles} {e : FileError} {refusal : Error} :
    fs.makeDirectories (above path) = (.error e, made) → SaveEnds fs path s (.error refusal, made)
  | notStorable {made : LocalFiles} {refusal : Error} :
    fs.makeDirectories (above path) = (.ok (), made) → ¬ s.Storable →
      SaveEnds fs path s (.error refusal, made)
  | noDraft {made : LocalFiles} {e : FileError} {refusal : Error} :
    fs.makeDirectories (above path) = (.ok (), made) → s.Storable →
      made.write (draftPath path) (Bytes.ofString s.document) = .error e →
      SaveEnds fs path s (.error refusal, made)
  | notMoved {made drafted : LocalFiles} {e : FileError} {refusal : Error} :
    fs.makeDirectories (above path) = (.ok (), made) → s.Storable →
      made.write (draftPath path) (Bytes.ofString s.document) = .ok drafted →
      drafted.rename (draftPath path) path = .error e → SaveEnds fs path s (.error refusal, drafted)
  | saved {made drafted moved : LocalFiles} :
    fs.makeDirectories (above path) = (.ok (), made) → s.Storable →
      made.write (draftPath path) (Bytes.ofString s.document) = .ok drafted →
      drafted.rename (draftPath path) path = .ok moved → SaveEnds fs path s (.ok (), moved)

theorem save_ends (fs : LocalFiles) (path : String) (s : Settings) :
    SaveEnds fs path s (save fs path s) := by
  rw [save]
  split
  case h_1 e made hmade => exact .noDirectory hmade
  case h_2 made hmade =>
    rw [document?_eq]
    by_cases h : s.Storable
    · rw [if_pos h]
      dsimp only
      cases hwrite : made.write (draftPath path) (Bytes.ofString s.document) with
      | error e => exact .noDraft hmade h hwrite
      | ok drafted =>
        dsimp only
        cases hrename : drafted.rename (draftPath path) path with
        | error e => exact .notMoved hmade h hwrite hrename
        | ok moved => exact .saved hmade h hwrite hrename
    · rw [if_neg h]
      exact .notStorable hmade h

/-! ## After a save -/

variable {fs fs' made : LocalFiles} {path : String}

theorem load_of_read (h : fs.read path = .ok (Bytes.ofString s.document)) (hs : s.Storable)
    (portVariable : Option String) : load fs path portVariable = s.withEnvironment portVariable := by
  rw [load, h]
  dsimp only
  rw [ofBytes?_document hs, Option.getD_some]

theorem withEnvironment_some (s : Settings) (text : String) :
    s.withEnvironment (some text) =
      match Text.port? (Text.trimmed text) with
      | some port => if 0 < port then { s with daemon := { s.daemon with port } } else s
      | none => s := by
  rw [withEnvironment, portOverride?, Option.bind_some]
  cases Text.port? (Text.trimmed text) with
  | none => rfl
  | some port =>
    dsimp only
    by_cases hport : 0 < port
    · rw [Option.filter_some, if_pos (by simpa using hport), if_pos hport]
    · rw [Option.filter_some, if_neg (by simpa using hport), if_neg hport]

/-- After a save the settings are loaded. -/
theorem load_of_save (h : save fs path s = (.ok (), fs')) (portVariable : Option String) :
    load fs' path portVariable = s.withEnvironment portVariable := by
  have hends := save_ends fs path s
  rw [h] at hends
  cases hends with
  | saved hmade hs hwrite hrename =>
    obtain ⟨names, hdraft, rfl⟩ := LocalFiles.target_of_write hwrite
    exact load_of_read (LocalFiles.read_of_rename hdraft hrename) hs portVariable

/-- After a save that failed nothing has changed at the path. -/
theorem info_and_read_of_refused {e : Error} (h : save fs path s = (.error e, fs'))
    {names : List String} (hpath : fs.resolve path = .ok names) :
    fs'.info path = fs.info path ∧ fs'.read path = fs.read path := by
  have hends := save_ends fs path s
  have hnothing := LocalFiles.makeDirectories_above hpath
  rw [h] at hends
  cases hends with
  | noDirectory hmade =>
    rw [hnothing] at hmade
    cases hmade
  | notStorable hmade =>
    rw [hnothing] at hmade
    cases hmade
    exact ⟨rfl, rfl⟩
  | noDraft hmade =>
    rw [hnothing] at hmade
    cases hmade
    exact ⟨rfl, rfl⟩
  | notMoved hmade _ hwrite =>
    rw [hnothing] at hmade
    cases hmade
    obtain ⟨new, hdraft, rfl⟩ := LocalFiles.target_of_write hwrite
    obtain ⟨hresolve, hnode⟩ := LocalFiles.resolve_put_withEnding (by decide) (by decide) hdraft hpath
      (Bytes.ofString s.document)
    exact ⟨LocalFiles.info_congr hpath hresolve hnode, LocalFiles.read_congr hpath hresolve hnode⟩

/-- Where both files can be written, exactly what a document can hold is saved. -/
theorem save_ok_iff (hmade : fs.makeDirectories (above path) = (.ok (), made))
    {draft new : List String} (hdraft : made.Target (draftPath path) draft)
    (hpath : made.Target path new) :
    (∃ fs', save fs path s = (.ok (), fs')) ↔ s.Storable := by
  have hwritten := hdraft.write_eq (Bytes.ofString s.document)
  have hmoved := LocalFiles.rename_of_entries (hdraft.put (Bytes.ofString s.document)).toEntry
    (LocalFiles.node?_put hdraft.ne_nil _)
    (hpath.beside hdraft.notDirectory (Bytes.ofString s.document))
  have hends := save_ends fs path s
  revert hends
  generalize save fs path s = ended
  intro hends
  cases hends with
  | noDirectory h =>
    rw [hmade] at h
    cases h
  | notStorable _ hs => exact ⟨fun ⟨_, h⟩ => (nomatch h), fun h => absurd h hs⟩
  | noDraft h _ hwrite =>
    rw [hmade] at h
    cases h
    rw [hwritten] at hwrite
    cases hwrite
  | notMoved h _ hwrite hrename =>
    rw [hmade] at h
    cases h
    rw [hwritten] at hwrite
    cases hwrite
    rw [hmoved] at hrename
    cases hrename
  | saved _ hs => exact ⟨fun _ => hs, fun _ => ⟨_, rfl⟩⟩

/-- **Main theorem.** Saving settings at any path, with any host and any numbers.

If it succeeds, the same settings are loaded from there, but the daemon's port is replaced exactly if
the variable of the environment, trimmed, is a port above zero. If it fails, at whichever step, what
was at the path is there unchanged, and where its directory is there and held nothing, nothing is
there. If the directories can be made and both the draft and the path can be written, it succeeds
exactly if every number of milliseconds is at most `2 ^ 63 - 1`. -/
theorem save_and_load (fs : LocalFiles) (path : String) (s : Settings) :
    (∀ fs', save fs path s = (.ok (), fs') →
      load fs' path none = s ∧
        ∀ text, load fs' path (some text) =
          match Text.port? (Text.trimmed text) with
          | some port => if 0 < port then { s with daemon := { s.daemon with port } } else s
          | none => s) ∧
    (∀ e fs', save fs path s = (.error e, fs') →
      (∀ i, fs.info path = .ok i → fs'.info path = .ok i ∧ fs'.read path = fs.read path) ∧
        ∀ names, fs.resolve path = .ok names → fs'.info path = fs.info path) ∧
    (∀ made drafted whole, fs.makeDirectories (above path) = (.ok (), made) →
      made.write (draftPath path) [] = .ok drafted → made.write path [] = .ok whole →
      ((∃ fs', save fs path s = (.ok (), fs')) ↔ ∀ n ∈ s.millis, n.toNat ≤ 0x7fffffffffffffff)) := by
  refine ⟨fun fs' h => ⟨load_of_save h none, fun text => ?_⟩, fun e fs' h => ⟨fun i hi => ?_, ?_⟩, ?_⟩
  · rw [load_of_save h, withEnvironment_some]
  · obtain ⟨names, hpath⟩ := LocalFiles.resolve_of_info hi
    obtain ⟨hinfo, hread⟩ := info_and_read_of_refused h hpath
    exact ⟨by rw [hinfo, hi], hread⟩
  · exact fun names hpath => (info_and_read_of_refused h hpath).1
  · intro made drafted whole hmade hdrafted hwhole
    obtain ⟨draft, hdraft, -⟩ := LocalFiles.target_of_write hdrafted
    obtain ⟨new, hnew, -⟩ := LocalFiles.target_of_write hwhole
    exact save_ok_iff hmade hdraft hnew

/-- A host with a quotation mark and a backslash, and a port from the environment. The path begins at
the root, and its directory is not there yet. -/
theorem save_and_load_quotedHost :
    let files : LocalFiles := { nodes := Dict.empty.insert "tmp" .directory, workingDirectory := ["tmp"] }
    let quoted := { Settings.standard with daemon := ⟨"a\"\\", 1⟩ }
    ∃ fs', save files "/etc/settings.toml" quoted = (.ok (), fs') ∧
      load fs' "/etc/settings.toml" none = quoted ∧
      load fs' "/etc/settings.toml" (some " 80 ") = { quoted with daemon := ⟨"a\"\\", 80⟩ } := by
  intro files quoted
  obtain ⟨hloaded, -, hsaved⟩ := save_and_load files "/etc/settings.toml" quoted
  let made : LocalFiles := { files with nodes := files.nodes.insert "etc" .directory }
  have hmade : files.makeDirectories (above "/etc/settings.toml") = (.ok (), made) := by
    have habove : above "/etc/settings.toml" = ["/etc"] := by decide
    rw [habove]
    rfl
  have hwritten : ∀ path ∈ ["/etc/settings.toml", draftPath "/etc/settings.toml"],
      ∃ fs', made.write path [] = .ok fs' := by
    intro path hpath
    have hsome : (made.write path []).toOption.isSome = true := by
      revert path
      decide
    cases hwrite : made.write path [] with
    | ok fs' => exact ⟨fs', rfl⟩
    | error e =>
      rw [hwrite] at hsome
      cases hsome
  obtain ⟨whole, hwhole⟩ := hwritten "/etc/settings.toml" (by simp)
  obtain ⟨drafted, hdrafted⟩ := hwritten (draftPath "/etc/settings.toml") (by simp)
  have hstorable : ∀ n ∈ quoted.millis, n.toNat ≤ 0x7fffffffffffffff := by
    simp [millis, quoted, Settings.standard]
  obtain ⟨fs', hfs'⟩ := (hsaved _ _ _ hmade hdrafted hwhole).2 hstorable
  obtain ⟨hnone, hsome⟩ := hloaded fs' hfs'
  have hport : Text.port? (Text.trimmed " 80 ") = some 80 := by decide
  refine ⟨fs', hfs', hnone, ?_⟩
  rw [hsome, hport]
  rfl

end DebugBridge.Settings
