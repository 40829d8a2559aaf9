import DebugBridge.Device.Operation
import DebugBridge.Package.Verdict
import DebugBridge.Proofs.Device.Commands
import DebugBridge.Proofs.Shell.Output
import Mathlib.Data.List.Basic
import Mathlib.Data.List.Induction

/-!
# The package manager's verdict

Of the lines that the package manager prints only the markers count (`IsMarker`), and of these only the
last (`IsLastMarker`). The lines come in batches that depend on how the output is cut into reads; the
verdict does not.

Results:
* `Marker.of?_eq_some_iff`, a marker is told from other lines;
* `Verdict.failure_lines_eq_some_iff`, the verdict tells of a failure just if the last marker is one;
* `Device.perform_manager`, what comes of an operation that runs the package manager.
-/

namespace DebugBridge

/-! ## Markers -/

variable {line : String} {lines : List String} {marker : Marker} {reason : String}

theorem toList_failure (blanks reason : String) :
    ("Failure" ++ blanks ++ "[" ++ reason ++ "]").toList =
      "Failure".toList ++ (blanks.toList ++ '[' :: (reason.toList ++ [']'])) := by
  simp only [String.toList_append, List.append_assoc]
  rfl

theorem IsMarker.of?_eq (h : IsMarker line marker) (hline : '\n' ∉ line.toList) :
    Marker.of? line = some marker := by
  cases h with
  | success rest => rw [Marker.of?, Text.afterString?_append, Option.isSome_some, if_pos rfl]
  | @failure blanks reason hne hblank =>
    have hother : Text.afterString? "Success" ("Failure" ++ blanks ++ "[" ++ reason ++ "]") = none := by
      rw [String.append_assoc, String.append_assoc, String.append_assoc]
      exact Text.afterString?_append_eq_none _ (by decide +kernel) (by decide +kernel)
    have htake : (blanks.toList ++ '[' :: (reason.toList ++ [']'])).takeWhile Text.isBlank =
        blanks.toList := by
      rw [List.takeWhile_append_of_pos hblank, List.takeWhile_cons_of_neg (by decide),
        List.append_nil]
    have hdrop : (blanks.toList ++ '[' :: (reason.toList ++ [']'])).dropWhile Text.isBlank =
        '[' :: (reason.toList ++ [']']) := by
      rw [List.dropWhile_append_of_pos hblank, List.dropWhile_cons_of_neg (by decide)]
    obtain ⟨first, others, hblanks⟩ : ∃ first others, blanks.toList = first :: others :=
      List.exists_cons_of_ne_nil (mt String.toList_eq_nil_iff.1 hne)
    have hreason : reason.toList.contains '\n' = false := by
      have hmem : '\n' ∉ reason.toList := fun h => hline (by rw [toList_failure]; simp [h])
      simpa using hmem
    rw [Marker.of?, hother, if_neg (by simp), toList_failure, Text.after?_append]
    simp only [htake, hdrop]
    rw [hblanks]
    simp only [List.getLast?_concat, List.dropLast_concat, hreason, Bool.false_eq_true, if_false,
      String.ofList_toList]

/-- A failure, spelled out. -/
theorem isMarker_failure {blanks reason : List Char} (hne : blanks ≠ [])
    (hblank : ∀ c ∈ blanks, Text.isBlank c)
    (hline : line.toList = "Failure".toList ++ (blanks ++ '[' :: (reason ++ [']']))) :
    IsMarker line (.failure (String.ofList reason)) := by
  obtain ⟨blanks, rfl⟩ : ∃ s : String, s.toList = blanks := ⟨_, String.toList_ofList⟩
  obtain ⟨reason, rfl⟩ : ∃ s : String, s.toList = reason := ⟨_, String.toList_ofList⟩
  rw [← toList_failure, String.toList_inj] at hline
  rw [hline, String.ofList_toList]
  exact .failure (mt String.toList_eq_nil_iff.2 hne) hblank

theorem isMarker_of_of?_eq (h : Marker.of? line = some marker) : IsMarker line marker := by
  unfold Marker.of? at h
  split at h
  · rename_i hsuccess
    obtain ⟨rest, hrest⟩ := Option.isSome_iff_exists.1 hsuccess
    cases h
    rw [Text.eq_append_of_afterString? hrest]
    exact .success rest
  · split at h
    · rename_i rest hrest
      split at h
      · rename_i first others inner htake hdrop
        split at h
        · rename_i hlast
          obtain ⟨reason, rfl⟩ := List.getLast?_eq_some_iff.1 hlast
          rw [List.dropLast_concat] at h
          dsimp only at h
          split at h
          · cases h
          · cases h
            refine isMarker_failure (List.cons_ne_nil first others) (fun c hc => ?_) ?_
            · rw [← htake] at hc
              exact List.all_eq_true.1 List.all_takeWhile c hc
            · rw [← htake, ← hdrop, List.takeWhile_append_dropWhile]
              exact Text.after?_eq_some_iff.1 hrest
        · cases h
      · cases h
    · cases h

/-- A marker is told from the other lines. -/
theorem Marker.of?_eq_some_iff (hline : '\n' ∉ line.toList) :
    Marker.of? line = some marker ↔ IsMarker line marker :=
  ⟨isMarker_of_of?_eq, (·.of?_eq hline)⟩

/-! ## The last marker -/

theorem not_isLastMarker_nil : ¬ IsLastMarker [] marker := by
  rintro ⟨before, line, after, hlines, -⟩
  simp at hlines

/-- One more line is the last marker, or is none and leaves the last marker what it is. -/
theorem isLastMarker_append_singleton : IsLastMarker (lines ++ [line]) marker ↔
    IsMarker line marker ∨ (∀ other, ¬ IsMarker line other) ∧ IsLastMarker lines marker := by
  constructor
  · rintro ⟨before, l, after, hlines, hl, hafter⟩
    rcases List.eq_nil_or_concat' after with rfl | ⟨after, last, rfl⟩
    · obtain ⟨-, hlast⟩ := List.append_inj' hlines rfl
      cases hlast
      exact .inl hl
    · rw [← List.cons_append, ← List.append_assoc] at hlines
      obtain ⟨hfront, hlast⟩ := List.append_inj' hlines rfl
      cases hlast
      exact .inr ⟨hafter line (by simp), before, l, after, hfront, hl,
        fun x hx => hafter x (List.mem_append_left _ hx)⟩
  · rintro (hl | ⟨hline, before, l, after, rfl, hl, hafter⟩)
    · exact ⟨lines, line, [], rfl, hl, by simp⟩
    · refine ⟨before, l, after ++ [line], by simp, hl, fun x hx => ?_⟩
      rcases List.mem_append.1 hx with hx | hx
      · exact hafter x hx
      · obtain rfl := List.mem_singleton.1 hx
        exact hline

theorem Verdict.lines_append_singleton (v : Verdict) :
    v.lines (lines ++ [line]) = (v.lines lines).line line := by
  rw [Verdict.lines, List.foldl_append]
  rfl

/-- The verdict tells of a failure just if the last marker is one. By induction on the lines, taking the
last one off. -/
theorem Verdict.failure_lines_eq_some_iff (h : ∀ line ∈ lines, '\n' ∉ line.toList) :
    (Verdict.none.lines lines).failure = some reason ↔ IsLastMarker lines (.failure reason) := by
  induction lines using List.reverseRecOn with
  | nil => simp [not_isLastMarker_nil, Verdict.lines, Verdict.none]
  | append_singleton lines line ih =>
    have hof (marker : Marker) : Marker.of? line = some marker ↔ IsMarker line marker :=
      Marker.of?_eq_some_iff (h line (by simp))
    have hlines := ih fun l hl => h l (List.mem_append_left _ hl)
    rw [isLastMarker_append_singleton, ← hlines, lines_append_singleton, Verdict.line]
    simp only [← hof]
    cases hmarker : Marker.of? line with
    | none => simp
    | some marker => cases marker <;> simp

/-- The verdict does not depend on the batches. -/
theorem acceptAll_verdict (v : Verdict) (batches : List (List String)) :
    Receiver.verdict.acceptAll v batches = v.lines batches.flatten := by
  rw [Verdict.lines, List.foldl_flatten]
  rfl

/-! ## Running the package manager -/

namespace PackageTarget

/-- What a complete run of the package manager comes to is told by the last marker. -/
theorem outcome_iff_isLastMarker {run : CommandRun} (h : run.result = .ok ())
    (hlines : ∀ line ∈ run.batches.flatten, '\n' ∉ line.toList) :
    (∀ reason, outcome run = .error (.installFailed reason) ↔
        IsLastMarker run.batches.flatten (.failure reason)) ∧
      (outcome run = .ok () ↔ ∀ reason, ¬ IsLastMarker run.batches.flatten (.failure reason)) := by
  simp only [← Verdict.failure_lines_eq_some_iff hlines, ← acceptAll_verdict]
  rw [outcome, h]
  cases (Receiver.verdict.acceptAll Verdict.none run.batches).failure with
  | none => simp
  | some reason => simp

end PackageTarget

namespace Device

open Shell

variable {D S : Type} [Daemon D S] {d : Device} {op : DeviceOperation} {command : String}
  {site : Site D} {output : Stream}

theorem fst_targetShell (d : Device) (command : String) (limit : Duration) (site : Site D) :
    ((d.packageTarget : PackageTarget (Desk D)).shell command limit site).1 =
      (d.shell command limit .batches [] site).1.map fun (batches, r) => ⟨batches, r⟩ :=
  congrArg Prod.fst (Desk.map_apply _ _ site)

/-- The package manager has run and its output is complete: all lines of the output decide. -/
theorem fst_manage_of_runs (h : d.Runs command site output) (hclosed : output.ending = .closed)
    (limit : Duration) :
    ∃ run : CommandRun, run.result = .ok () ∧
      run.batches.flatten = linesOf (output.reads readSize).flatten ∧
      ((d.packageTarget : PackageTarget (Desk D)).manage command limit site).1 =
        some (PackageTarget.outcome run) := by
  obtain ⟨batches, hpump, hbatches⟩ :=
    @pump_batches [] .empty rfl [] rfl (output.reads readSize)
  refine ⟨⟨batches, .ok ()⟩, rfl, hbatches, ?_⟩
  rw [PackageTarget.manage, Desk.map_apply, fst_targetShell, shell_of_runs h, hclosed, hpump]
  rfl

/-- To install a staged package or to uninstall one is to run the package manager. -/
theorem perform_eq_manage (hop : op.managerCommand? = some command) (site : Site D) :
    d.perform op site =
      (d.packageTarget : PackageTarget (Desk D)).manage command site.installLimit site := by
  cases op with
  | uninstall package =>
    cases hop
    rfl
  | installStaged remote reinstall =>
    cases hop
    rfl
  | _ => cases hop

/-- **Main theorem.** A device is known and usable, the daemon grants the command with which a staged
package is installed or a package is uninstalled, and then sends some output in the reads `chunks` and
closes. Then the operation has a result, which depends on the lines of the output only. It is the
failure that the last marker tells, if the last marker tells one; otherwise it is success. -/
theorem perform_manager (hop : op.managerCommand? = some command)
    (honline : site.registry.state? d.serial = some .online)
    (hgrant : Net.Grants site.daemon (service d.serial command) output)
    (hclosed : output.ending = .closed) {chunks : List Bytes}
    (hreads : output.reads readSize = chunks) :
    ∃ result, (d.perform op site).1 = some result ∧
      (∀ reason, result = .error (.installFailed reason) ↔
        IsLastMarker (linesOf chunks.flatten) (.failure reason)) ∧
      (result = .ok () ↔ ∀ reason, ¬ IsLastMarker (linesOf chunks.flatten) (.failure reason)) := by
  subst hreads
  have husable : d.ensureOnline site.registry = .ok () := by rw [ensureOnline, honline]
  obtain ⟨run, hrun, hbatches, hmanage⟩ :=
    fst_manage_of_runs (runs_of_grants husable hgrant) hclosed site.installLimit
  have hlines : ∀ line ∈ run.batches.flatten, '\n' ∉ line.toList := by
    rw [hbatches]
    exact fun _ => newline_not_mem_of_mem_linesOf
  rw [← hbatches]
  exact ⟨_, (congrArg Prod.fst (perform_eq_manage hop site)).trans hmanage,
    PackageTarget.outcome_iff_isLastMarker hrun hlines⟩

/-- A success that a failure overrules, cut inside both lines. -/
def overruledChunks : List Bytes :=
  [Bytes.ofString "Succ", Bytes.ofString "ess\r\nFail", Bytes.ofString "ure [A] b]"]

/-- A device is known and usable; the daemon grants what it is asked, and sends the chunks. -/
def overruledSite : Site Script :=
  ⟨(Registry.empty.applyList [⟨"s", .online⟩]).registry,
    .saying "" ⟨okayToken, overruledChunks, .closed⟩, .empty, .zero⟩

theorem perform_manager_overruled :
    let op : DeviceOperation := .uninstall "com.test"
    let output : Stream := ⟨[], overruledChunks ++ [[]], .closed⟩
    op.managerCommand? = some "pm uninstall com.test" ∧
      overruledSite.registry.state? "s" = some .online ∧
      Net.Grants overruledSite.daemon (service "s" "pm uninstall com.test") output ∧
      output.reads readSize = overruledChunks ∧
      (Device.perform ⟨"s"⟩ op overruledSite).1 = some (.error (.installFailed "A] b")) := by
  intro op output
  have hop : op.managerCommand? = some "pm uninstall com.test" := by decide +kernel
  have honline : overruledSite.registry.state? "s" = some .online := by decide
  have hgrant : Net.Grants overruledSite.daemon (service "s" "pm uninstall com.test") output :=
    ⟨_, _, rfl, rfl, by decide⟩
  have hreads : output.reads readSize = overruledChunks := by
    rw [Stream.reads_append_nil]
    exact Stream.reads_of_chunks (by decide) .closed
  obtain ⟨result, hresult, hfailed, -⟩ :=
    perform_manager (d := ⟨"s"⟩) hop honline hgrant rfl hreads
  have hlines : linesOf overruledChunks.flatten =
      ["Success"] ++ ("Failure" ++ " " ++ "[" ++ "A] b" ++ "]") :: [] := by decide
  have hmarker : IsMarker ("Failure" ++ " " ++ "[" ++ "A] b" ++ "]") (.failure "A] b") :=
    .failure (by decide) (List.all_eq_true.1 (by decide))
  have hlast : IsLastMarker (linesOf overruledChunks.flatten) (.failure "A] b") :=
    ⟨_, _, [], hlines, hmarker, fun _ h => absurd h List.not_mem_nil⟩
  rw [(hfailed _).2 hlast] at hresult
  exact ⟨hop, honline, hgrant, hreads, hresult⟩

end Device

end DebugBridge
