import DebugBridge.Proofs.Package.Install
import DebugBridge.Proofs.Shell.Words

/-!
# The staged file in the eyes of the shell

An installation names the staged file to the device's shell twice: to the package manager, between
quotes, and to the command that deletes it, without quotes. Inside the quotes the shell sees the path.
Without them it sees the pieces between the blanks of the path, and the path is among these only if the
file's name has no blank. A file with a blank in its name is installed, but not deleted.

Results:
* `commandWords_installCommand`, `commandWords_removeCommand`, what the shell makes of the two commands;
* `PackageTarget.install_words`, what an installation on any target tells the shell, and that the
  staged file is deleted exactly if its name has no blank.
-/

namespace DebugBridge

open Shell

namespace PackageTarget

variable {remote : String}

/-- The package manager is given one path, blanks and all. -/
theorem commandWords_installCommand (h : '"' ∉ remote.toList) (reinstall : Bool) :
    commandWords (installCommand remote reinstall) =
      ["pm", "install"] ++ (if reinstall then ["-r"] else []) ++ [remote] := by
  have hwords : commandWords (installCommand remote reinstall) =
      ["pm", "install"] ++ (if reinstall then ["-r"] else []) ++
        (wordsFrom (some []) true (remote.toList ++ ['"'])).map String.ofList := by
    cases reinstall <;> simp only [commandWords, installCommand, String.toList_append,
      List.append_assoc, ↓reduceIte, Bool.false_eq_true] <;> rfl
  rw [hwords, wordsFrom_quoted h, wordsFrom, Option.map_some, List.append_nil, List.reverse_reverse,
    Option.toList_some, List.map_singleton, String.ofList_toList]

/-- The command that deletes is given the pieces of a path. -/
theorem commandWords_removeCommand (h : '"' ∉ remote.toList) :
    commandWords (removeCommand remote) = "rm" :: pieces remote := by
  rw [← commandWords_of_unquoted h, removeCommand, commandWords, commandWords, String.toList_append]
  rfl

end PackageTarget

/-! ## The two commands of an installation -/

variable {m : Type → Type} [Monad m] {name : String}

theorem toList_staged : s!"{stagingDirectory}/{name}".toList =
    stagingDirectory.toList ++ ['/'] ++ name.toList := by
  rw [String.toList_append, String.toList_append]
  rfl

/-- A staged path has no quote if the file's name has none. -/
theorem quote_not_mem_staged (h : ∀ c ∈ name.toList, c == ' ' || isOrdinary c) :
    '"' ∉ s!"{stagingDirectory}/{name}".toList := by
  rw [toList_staged, List.mem_append, not_or]
  refine ⟨by decide +kernel, fun hquote => ?_⟩
  exact absurd (h _ hquote) (by decide +kernel)

/-- A staged path has a blank only if the file's name has one. -/
theorem blank_mem_staged :
    ' ' ∈ s!"{stagingDirectory}/{name}".toList ↔ ' ' ∈ name.toList := by
  rw [toList_staged, List.mem_append, or_iff_right (by decide +kernel)]

theorem staged_ne_empty : s!"{stagingDirectory}/{name}" ≠ "" := by
  intro h
  have hlist := congrArg String.toList h
  rw [toList_staged] at hlist
  simp at hlist

/-- **Main theorem.** A file is installed whose name is of ordinary characters and blanks. If it can be
pushed at all, then the target is told two commands. The shell gives the package manager exactly the
staged path, but gives the deletion the pieces of it: this is the staged path exactly if the name has no
blank, and otherwise the staged path is not even among the pieces. -/
theorem PackageTarget.install_words [LawfulMonad m] (t : PackageTarget m) {path : String}
    (hname : lastComponent? path = some name) (hplain : ∀ c ∈ name.toList, c == ' ' || isOrdinary c)
    (reinstall : Bool) (limit : Duration) :
    let remote := s!"{stagingDirectory}/{name}"
    Always (fun (_, log) => (∃ cause, log = [.push path remote (.error cause)]) ∨
        log.head? = some (.push path remote (.ok ())) ∧
          (log.filterMap (·.command?)).map commandWords =
            [["pm", "install"] ++ (if reinstall then ["-r"] else []) ++ [remote],
              "rm" :: pieces remote])
        ((t.logged.install path reinstall limit).run []) ∧
      (pieces remote = [remote] ↔ ' ' ∉ name.toList) ∧
      (remote ∈ pieces remote ↔ ' ' ∉ name.toList) := by
  intro remote
  have hmem : remote ∈ pieces remote ↔ ' ' ∉ name.toList :=
    (mem_pieces_self staged_ne_empty).trans (not_congr blank_mem_staged)
  refine ⟨(t.always_installation path reinstall limit).mono fun (result, log) h => ?_, ?_, hmem⟩
  · cases h with
    | unnamed hnone =>
      rw [hname] at hnone
      cases hnone
    | unpushed hname' cause =>
      obtain rfl := Option.some.inj (hname.symm.trans hname')
      exact .inl ⟨cause, rfl⟩
    | managed hname' run removal =>
      obtain rfl := Option.some.inj (hname.symm.trans hname')
      have hquote := quote_not_mem_staged hplain
      refine .inr ⟨rfl, ?_⟩
      show [commandWords (installCommand remote reinstall), commandWords (removeCommand remote)] = _
      rw [commandWords_installCommand hquote, commandWords_removeCommand hquote]
  · refine ⟨fun hpieces => hmem.1 ?_, fun h => ?_⟩
    · rw [hpieces]
      exact List.mem_singleton_self remote
    · exact pieces_of_blankless staged_ne_empty (mt blank_mem_staged.1 h)

/-- A file without a blank in its name: both commands name it. -/
theorem PackageTarget.install_words_blankless :
    LawfulMonad (StateM Nat) ∧ lastComponent? "apks/app-1.apk" = some "app-1.apk" ∧
      (∀ c ∈ "app-1.apk".toList, c == ' ' || isOrdinary c) ∧
      pieces s!"{stagingDirectory}/app-1.apk" = [s!"{stagingDirectory}/app-1.apk"] := by
  have hname : lastComponent? "apks/app-1.apk" = some "app-1.apk" := by decide +kernel
  have hplain : ∀ c ∈ "app-1.apk".toList, c == ' ' || isOrdinary c :=
    List.all_eq_true.1 (by decide +kernel)
  refine ⟨inferInstance, hname, hplain, ?_⟩
  exact (refusingTarget.install_words hname hplain false .zero).2.1.2 (by decide +kernel)

/-- A file with a blank in its name: it is pushed and installed, and then two other files are to be
deleted. -/
theorem PackageTarget.removal_of_blank :
    (∀ c ∈ "my app.apk".toList, c == ' ' || isOrdinary c) ∧
      (let run := (refusingTarget.logged.install "apks/my app.apk" false .zero).run [] 0
      run.1.2.head? = some (.push "apks/my app.apk" "/data/local/tmp/my app.apk" (.ok ())) ∧
        (run.1.2.filterMap (·.command?)).map commandWords =
          [["pm", "install", "/data/local/tmp/my app.apk"],
            ["rm", "/data/local/tmp/my", "app.apk"]]) ∧
      commandWords (removeCommand "/data/local/tmp/my app.apk") ≠
        ["rm", "/data/local/tmp/my app.apk"] := by
  refine ⟨List.all_eq_true.1 (by decide +kernel), ⟨rfl, by decide +kernel⟩, by decide +kernel⟩

end DebugBridge
