import DebugBridge.Package.Calls

/-!
# The course of an installation

Whatever a package target answers, an installation on it goes one of three ways (`Installation`): the
path names no file and nothing is done, or the file cannot be pushed and nothing else is done, or the
file is pushed, the package manager is run once, and the pushed file is deleted once, whatever the
package manager has said. What came of the deletion decides nothing.

A target may have effects of any kind. What holds of every result of a computation with such effects is
said by `Always`.

Results:
* `PackageTarget.run_install_logged`, an installation with its log, step by step;
* `PackageTarget.always_installation`, an installation goes one of the three ways;
* `Installation.result_eq`, the first two calls decide what comes of an installation;
* `PackageTarget.install_course`, so the first two calls decide, and the log changes nothing.
-/

namespace DebugBridge

variable {m : Type → Type} [Monad m] {α β : Type} {p : α → Prop} {q : β → Prop}

/-! ## All results of a computation -/

/-- Every result of a computation has a property: the computation can be done so that it gives the proof
along with the result. -/
def Always (p : α → Prop) (x : m α) : Prop := ∃ y : m (Subtype p), Subtype.val <$> y = x

/-- What holds of every result of a state machine holds of the one that it comes to. -/
theorem Always.of_state {σ : Type} {x : StateM σ α} (h : Always p x) (s : σ) : p (x s).1 := by
  obtain ⟨y, rfl⟩ := h
  exact (y s).1.property

section Lawful

variable [LawfulMonad m]

theorem Always.mono {p' : α → Prop} {x : m α} (hx : Always p x) (h : ∀ a, p a → p' a) :
    Always p' x := by
  obtain ⟨y, rfl⟩ := hx
  refine ⟨(fun a => ⟨a.1, h a.1 a.2⟩) <$> y, ?_⟩
  rw [← comp_map]
  rfl

theorem Always.pure {a : α} (h : p a) : Always p (pure a : m α) :=
  ⟨Pure.pure ⟨a, h⟩, map_pure _ _⟩

theorem Always.bind {x : m α} {f : α → m β} (hf : ∀ a, Always q (f a)) : Always q (x >>= f) := by
  refine ⟨x >>= fun a => (hf a).choose, ?_⟩
  rw [map_bind]
  exact bind_congr fun a => (hf a).choose_spec

end Lawful

/-! ## An installation with its log -/

namespace PackageTarget

variable (t : PackageTarget m) (path remote command : String) (reinstall : Bool) (limit : Duration)
  (log : List TargetCall)

theorem run_push_logged : (t.logged.push path remote).run log =
    (fun answer => (answer, log ++ [.push path remote answer])) <$> t.push path remote := rfl

theorem run_shell_logged : (t.logged.shell command limit).run log =
    (fun run => (run, log ++ [.shell command limit run])) <$> t.shell command limit := rfl

variable [LawfulMonad m]

/-- What comes of a deletion is told by the run of its one command. -/
theorem removeStaged_eq_map : t.removeStaged remote limit =
    (fun run : CommandRun => match run.result with
      | .ok () => .ok ()
      | .error e => .error (.installFailed (s!"Failed to delete {remote}: " ++ e.message))) <$>
      t.shell (removeCommand remote) limit := by
  rw [removeStaged, map_eq_pure_bind]
  refine bind_congr fun run => ?_
  cases run.result <;> rfl

/-- An installation on a logged target makes the calls of one on the target itself, and writes down
each of them. -/
theorem run_install_logged : (t.logged.install path reinstall limit).run log =
    (match stagedPath path with
    | .error e => pure (.error e, log)
    | .ok remote => do
      match ← t.push path remote with
      | .error cause =>
        pure (.error (.installFailed ("Unable to upload file: " ++ cause.message)),
          log ++ [.push path remote (.error cause)])
      | .ok () =>
        let run ← t.shell (installCommand remote reinstall) limit
        let removal ← t.shell (removeCommand remote) limit
        pure (outcome run, log ++ [.push path remote (.ok ()),
          .shell (installCommand remote reinstall) limit run,
          .shell (removeCommand remote) limit removal])) := by
  rw [install, StateT.run_bind, stage]
  cases stagedPath path with
  | error e => simp only [StateT.run_pure, pure_bind]
  | ok remote =>
    simp only [StateT.run_bind, run_push_logged, bind_map_left, bind_assoc]
    refine bind_congr fun answer => ?_
    cases answer with
    | error cause => simp only [StateT.run_pure, pure_bind]
    | ok =>
      -- what is left of the deletion is its call, so both sides run the same two commands
      simp only [StateT.run_pure, pure_bind, StateT.run_bind, installStaged, manage,
        removeStaged_eq_map, run_shell_logged, bind_map_left, List.append_assoc, List.cons_append,
        List.nil_append]

/-- A log changes nothing. -/
theorem fst_run_install_logged :
    Prod.fst <$> (t.logged.install path reinstall limit).run log =
      t.install path reinstall limit := by
  rw [run_install_logged, install, stage]
  cases stagedPath path with
  | error e => simp only [map_pure, pure_bind]
  | ok remote =>
    simp only [map_bind, bind_assoc]
    refine bind_congr fun answer => ?_
    cases answer with
    | error cause => simp only [map_pure, pure_bind]
    | ok =>
      simp only [pure_bind, installStaged, manage, removeStaged_eq_map, bind_map_left, map_bind,
        map_pure]

/-- Every installation goes one of the three ways. -/
theorem always_installation :
    Always (fun (result, log) => Installation path reinstall limit log result)
      ((t.logged.install path reinstall limit).run []) := by
  rw [run_install_logged]
  unfold stagedPath
  cases hname : lastComponent? path with
  | none => exact Always.pure (.unnamed hname)
  | some name =>
    refine Always.bind fun answer => ?_
    cases answer with
    | error cause => exact Always.pure (.unpushed hname cause)
    | ok =>
      refine Always.bind fun run => Always.bind fun removal => Always.pure ?_
      exact .managed hname run removal

end PackageTarget

/-! ## The ways in which an installation can go -/

namespace Installation

variable {path : String} {reinstall : Bool} {limit : Duration} {log log' : List TargetCall}
  {result result' : Except Error Unit}

/-- An installation fails with no other error than a failed installation. -/
theorem installFailed (h : Installation path reinstall limit log result) {e : Error}
    (he : result = .error e) : ∃ reason, e = .installFailed reason := by
  cases h with
  | unnamed hname =>
    cases he
    exact ⟨_, rfl⟩
  | unpushed hname cause =>
    cases he
    exact ⟨_, rfl⟩
  | managed hname run removal =>
    unfold PackageTarget.outcome at he
    split at he
    · cases he
      exact ⟨_, rfl⟩
    · split at he
      · cases he
        exact ⟨_, rfl⟩
      · cases he

/-- Two installations that do not differ before the deletion come to the same. -/
theorem result_eq (h : Installation path reinstall limit log result)
    (h' : Installation path reinstall limit log' result') (hlog : log.take 2 = log'.take 2) :
    result = result' := by
  -- the calls tell the three ways apart, and all but the deletion are among the first two
  cases h <;> cases h' <;> simp_all

end Installation

/-- **Main theorem.** Whatever the target and its effects, a log of its calls changes nothing, and every
installation goes one of the three ways of `Installation`; it fails only with a failed installation. Of
two installations that go alike up to the run of the package manager, both come to the same, however the
deletion goes. -/
theorem PackageTarget.install_course [LawfulMonad m] (t : PackageTarget m) (path : String)
    (reinstall : Bool) (limit : Duration) :
    Prod.fst <$> (t.logged.install path reinstall limit).run [] = t.install path reinstall limit ∧
      Always (fun (result, log) => Installation path reinstall limit log result ∧
          (∀ e, result = .error e → ∃ reason, e = .installFailed reason) ∧
          ∀ log' result', Installation path reinstall limit log' result' →
            log'.take 2 = log.take 2 → result' = result)
        ((t.logged.install path reinstall limit).run []) := by
  refine ⟨t.fst_run_install_logged path reinstall limit [],
    (t.always_installation path reinstall limit).mono fun (result, log) h => ⟨h, ?_, ?_⟩⟩
  · exact fun _ => h.installFailed
  · exact fun _ _ h' hlog => h'.result_eq h hlog

/-- A target that takes every file, whose package manager refuses it, and that answers no second
command. -/
def refusingTarget : PackageTarget (StateM Nat) where
  push _ _ := pure (.ok ())
  shell command limit := fun n =>
    (⟨[["Failure [INSTALL_FAILED_INVALID_APK]"]],
      if n = 0 then .ok () else .error (.shellUnresponsive command limit)⟩, n + 1)

theorem PackageTarget.install_course_refused :
    LawfulMonad (StateM Nat) ∧
      let run := (refusingTarget.logged.install "apks/app.apk" true .zero).run [] 0
      Installation "apks/app.apk" true .zero run.1.2 run.1.1 ∧
        run.1.1 = .error (.installFailed "INSTALL_FAILED_INVALID_APK") ∧
        run.1.2.filterMap (·.command?) =
          ["pm install -r \"/data/local/tmp/app.apk\"", "rm /data/local/tmp/app.apk"] := by
  refine ⟨inferInstance, ?_, ?_, ?_⟩
  · exact ((refusingTarget.install_course "apks/app.apk" true .zero).2.of_state 0).1
  · rfl
  · decide +kernel

end DebugBridge
