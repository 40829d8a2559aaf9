import DebugBridge.Monitor.History
import DebugBridge.Proofs.Monitor.Reconnecting
import DebugBridge.Proofs.Registry.Sweeps

/-!
# The history of a run

Nothing happens to the registry in a run but the operations of its history, and nothing is published
but their events (`run_history`). The sweeps among them are those that the signals call for, in the
same order, but for those that are still on the agenda, and for one more at the end if the monitor
gives up (`run_sweeps`).
-/

namespace DebugBridge

namespace System

variable {s s' : System} {m : Move} {moves : List Move}

/-! ## The registry and the events -/

theorem operation?_work {job : MonitorJob} {rest : List MonitorJob} (h : s.agenda = job :: rest) :
    s.operation? .work = job.operation? := by
  rw [operation?, h]
  rfl

theorem operation?_taskWork {number : Nat} {t : Task} {job : Job} {rest : List Job}
    (ht : s.tasks[number]? = some t) (h : t.agenda = job :: rest) :
    s.operation? (.taskWork number) = job.operation? t.serial := by
  simp [operation?, ht, h]

/-- Does a step do to the registry what the operation does, and publish its events? -/
def Does (s s' : System) (op : Option Operation) : Prop :=
  s'.shared.registry = (s.shared.registry.performAll op.toList).1 ∧
    s'.events = s.events ++ (s.shared.registry.performAll op.toList).2

theorem Does.none (hregistry : s'.shared.registry = s.shared.registry)
    (hevents : s'.events = s.events) : Does s s' none :=
  ⟨hregistry, hevents.trans (List.append_nil _).symm⟩

theorem Does.some {op : Operation} (hregistry : s'.shared.registry = (s.shared.registry.perform op).1)
    (hevents : s'.events = s.events ++ (s.shared.registry.perform op).2) : Does s s' (some op) := by
  refine ⟨hregistry, ?_⟩
  rw [hevents, Option.toList_some, Registry.performAll_cons]
  exact congrArg _ (List.append_nil _).symm

theorem events_handle_eq (e : Event) : (s.handle e).1.events = s.events := by
  obtain ⟨kept, tasks, heq⟩ := s.handle_eq e
  rw [heq]

theorem Works.does (h : Works s s') : Does s s' (s.operation? .work) := by
  cases h with
  | @handle e rest hagenda =>
    rw [operation?_work hagenda]
    exact .none (congrArg Shared.registry (shared_handle e)) (events_handle_eq e)
  | release hagenda | giveUp hagenda | retry hagenda | finish hagenda =>
    rw [operation?_work hagenda]
    exact .none rfl rfl
  | clearClients hagenda | applyList hagenda | clear hagenda | quit hagenda =>
    rw [operation?_work hagenda]
    exact .some rfl rfl

theorem does_taskWork {number : Nat} (h : s.taskWork number = some s') :
    Does s s' (s.operation? (.taskWork number)) := by
  obtain ⟨t, job, rest, w, ht, hagenda, hw, rfl⟩ := taskWork_cases h
  rw [operation?_taskWork ht hagenda]
  cases job with
  | retain | register | clear | setProperties | setMountPoint | setAvdName =>
    cases hw
    exact .some rfl rfl
  | survey | release | allocate | checkAfterList | checkAfterSleep =>
    cases hw
    exact .none rfl (List.append_nil _)
  | checkBeforeSleep =>
    rw [Task.perform_checkBeforeSleep] at hw
    split_ifs at hw <;> cases hw <;> exact .none rfl (List.append_nil _)
  | openStream | nextPids | greet | describe | sleep | closeStream | askProperties
  | askMountPoint | askAvdName => cases hw

/-- A move does what its operation does. -/
theorem does_move (h : s.move m = some s') : Does s s' (s.operation? m) := by
  cases m with
  | work => exact (works_of_work h).does
  | hear a => cases hears_of_hear h <;> exact .none rfl rfl
  | taskWork number => exact does_taskWork h
  | taskHear number a =>
    obtain ⟨t, t', -, -, -, rfl⟩ := taskHear_cases h
    exact .none rfl rfl
  | taskEnd number =>
    obtain ⟨t, -, -, rfl⟩ := taskEnd_cases h
    exact .none rfl rfl

theorem history_cons (h : s.move m = some s') :
    s.history (m :: moves) = (s.operation? m).toList ++ s'.history moves := by
  rw [history, h]

/-- A run does to the registry what its history does, and publishes the events of that. -/
theorem run_history (h : s.run moves = some s') :
    s'.shared.registry = (s.shared.registry.performAll (s.history moves)).1 ∧
      s'.events = s.events ++ (s.shared.registry.performAll (s.history moves)).2 := by
  induction moves generalizing s with
  | nil =>
    cases h
    exact ⟨rfl, (List.append_nil _).symm⟩
  | cons m moves ih =>
    obtain ⟨s₁, hm, hrun⟩ := Option.bind_eq_some_iff.1 h
    obtain ⟨hreg₁, hevents₁⟩ := does_move hm
    obtain ⟨hreg, hevents⟩ := ih hrun
    rw [history_cons hm, Registry.performAll_append, ← hreg₁]
    refine ⟨hreg, ?_⟩
    rw [hevents, hevents₁, List.append_assoc]

/-! ## Sweeps -/

end System

theorem Job.isSweep_of_operation? {job : Job} {serial : String} {op : Operation}
    (h : job.operation? serial = some op) : op.isSweep = false := by
  cases job <;> cases h <;> rfl

theorem MonitorJob.isSweep_of_operation? {job : MonitorJob} (hjob : job.isChore = true)
    {op : Operation} (h : job.operation? = some op) : op.isSweep = false := by
  cases job <;> cases h <;> first | rfl | cases hjob

namespace System

variable {s s' : System} {moves : List Move}

/-- The sweep that a move is, if it is one. -/
def sweepOf (s : System) (m : Move) : List Operation := (s.operation? m).toList.filter (·.isSweep)

theorem sweepOf_eq_nil {m : Move} (h : ∀ op, s.operation? m = some op → op.isSweep = false) :
    s.sweepOf m = [] := by
  rw [sweepOf, List.filter_eq_nil_iff]
  intro op hop
  simp [h op (Option.mem_toList.1 hop)]

theorem sweepOf_taskWork (s : System) (number : Nat) : s.sweepOf (.taskWork number) = [] := by
  refine sweepOf_eq_nil fun op hop => ?_
  obtain ⟨t, -, hop⟩ := Option.bind_eq_some_iff.1 hop
  obtain ⟨job, -, hop⟩ := Option.bind_eq_some_iff.1 hop
  exact Job.isSweep_of_operation? hop

theorem dueSweeps_append (jobs rest : List MonitorJob) :
    dueSweeps (jobs ++ rest) = dueSweeps jobs ++ dueSweeps rest := by
  rw [dueSweeps, List.filterMap_append, List.filter_append, dueSweeps, dueSweeps]

theorem dueSweeps_cons (job : MonitorJob) (rest : List MonitorJob) :
    dueSweeps (job :: rest) = dueSweeps [job] ++ dueSweeps rest := dueSweeps_append [job] rest

theorem dueSweeps_chores {jobs : List MonitorJob} (h : ∀ job ∈ jobs, job.isChore = true) :
    dueSweeps jobs = [] := by
  rw [dueSweeps, List.filter_eq_nil_iff]
  intro op hop
  obtain ⟨job, hjob, hop⟩ := List.mem_filterMap.1 hop
  simp [MonitorJob.isSweep_of_operation? (h job hjob) hop]

/-- The first job gives way to others that are no sweeps. -/
theorem dueSweeps_replace {job : MonitorJob} {rest jobs : List MonitorJob}
    (h : s.agenda = job :: rest) (hjobs : dueSweeps jobs = []) :
    dueSweeps s.agenda = s.sweepOf .work ++ dueSweeps (jobs ++ rest) := by
  rw [dueSweeps_append, hjobs, List.nil_append, h, dueSweeps_cons, sweepOf, operation?_work h]
  cases job <;> rfl

/-- The first job gives way to chores. -/
theorem dueSweeps_replace_chores {job : MonitorJob} {rest chores : List MonitorJob}
    (h : s.agenda = job :: rest) (hchores : ∀ job ∈ chores, job.isChore = true) :
    dueSweeps s.agenda = s.sweepOf .work ++ dueSweeps (chores ++ rest) :=
  dueSweeps_replace h (dueSweeps_chores hchores)

/-- The monitor works off a sweep that is due, if its first job is one, or gives up. -/
theorem Works.sweeps (h : Works s s') :
    dueSweeps s.agenda = s.sweepOf .work ++ dueSweeps s'.agenda ∨
      ∃ rest, s.agenda = .retry :: rest ∧ s'.agenda = .quit :: rest := by
  cases h with
  | handle hagenda => exact .inl (dueSweeps_replace_chores hagenda fun _ => isChore_of_mem_handle)
  | clearClients hagenda =>
    exact .inl (dueSweeps_replace_chores hagenda fun _ => MonitorJob.isChore_of_mem_releases)
  | applyList hagenda | clear hagenda =>
    exact .inl (dueSweeps_replace_chores hagenda fun _ => isChore_of_mem_map_handle)
  | @release port rest hagenda | @finish rest hagenda =>
    have hnone : dueSweeps [] = [] := rfl
    exact .inl (dueSweeps_replace hagenda hnone)
  | retry hagenda hmost =>
    have hsleep : dueSweeps [.sleep (Task.backoffWait s.settings (s.failures + 1)), .openStream] =
        [] := rfl
    exact .inl (dueSweeps_replace hagenda hsleep)
  | quit hagenda =>
    refine .inl (dueSweeps_replace hagenda ?_)
    rw [dueSweeps_append, dueSweeps_chores fun _ => isChore_of_mem_lastReleases]
    rfl
  | giveUp hagenda => exact .inr ⟨_, hagenda, rfl⟩

/-- While the monitor waits, no sweep is due. -/
theorem dueSweeps_of_waits {job : MonitorJob} {rest : List MonitorJob}
    (ho : Orderly (job :: rest)) (h : job.waits = true) : dueSweeps (job :: rest) = [] := by
  rw [ho.eq_behind (MonitorJob.isChore_eq_false_of_waits h)]
  cases job <;> first | rfl | cases h

theorem dueSweeps_of_resting (ho : Orderly s.agenda) (h : s.isResting = true) :
    dueSweeps s.agenda = [] := by
  unfold isResting at h
  cases hagenda : s.agenda with
  | nil => rfl
  | cons job rest =>
    rw [hagenda] at ho h
    exact dueSweeps_of_waits ho h

/-- A signal puts the sweep that it calls for on the agenda. -/
theorem Hears.sweeps {a : Signal} (h : Hears s a s') (ho : Orderly s.agenda) :
    dueSweeps s.agenda = [] ∧ dueSweeps s'.agenda = a.sweep?.toList := by
  cases h with
  | shutdown hagenda hwaits =>
    rw [hagenda] at ho ⊢
    exact ⟨dueSweeps_of_waits ho hwaits, rfl⟩
  | accepted hagenda | refused hagenda | list hagenda | lost hagenda | woke hagenda =>
    rw [hagenda] at ho ⊢
    rw [ho.eq_behind rfl]
    exact ⟨rfl, rfl⟩

/-! ## The end of a monitor -/

/-- A monitor that hears nothing more: it is about to end, or has ended. -/
def Ending (agenda : List MonitorJob) : Prop :=
  ∀ job ∈ agenda, job.isChore = true ∨ job = .quit ∨ job = .finish

theorem Ending.works (h : Works s s') (he : Ending s.agenda) : Ending s'.agenda := by
  have hreplace : ∀ {job : MonitorJob} {rest jobs : List MonitorJob}, s.agenda = job :: rest →
      (∀ j ∈ jobs, j.isChore = true ∨ j = .quit ∨ j = .finish) → Ending (jobs ++ rest) := by
    intro job rest jobs hagenda hjobs j hj
    rcases List.mem_append.1 hj with hj | hj
    · exact hjobs j hj
    · exact he j (hagenda ▸ List.mem_cons_of_mem _ hj)
  cases h with
  | handle hagenda => exact hreplace hagenda fun _ hj => .inl (isChore_of_mem_handle hj)
  | clearClients hagenda =>
    exact hreplace hagenda fun _ hj => .inl (MonitorJob.isChore_of_mem_releases hj)
  | @release port rest hagenda | @finish rest hagenda =>
    exact fun j hj => he j (hagenda ▸ List.mem_cons_of_mem _ hj)
  | quit hagenda =>
    refine hreplace hagenda fun j hj => ?_
    rcases List.mem_append.1 hj with hj | hj
    · exact .inl (isChore_of_mem_lastReleases hj)
    · exact .inr (.inr (List.mem_singleton.1 hj))
  | applyList hagenda | clear hagenda | giveUp hagenda | retry hagenda =>
    exact absurd (he _ (hagenda ▸ List.mem_cons_self)) (by simp [MonitorJob.isChore])

theorem Ending.waits_eq_false (he : Ending s.agenda) {job : MonitorJob} {rest : List MonitorJob}
    (hagenda : s.agenda = job :: rest) : job.waits = false := by
  rcases he job (hagenda ▸ List.mem_cons_self) with hjob | rfl | rfl
  · cases job <;> first | rfl | cases hjob
  · rfl
  · rfl

theorem Ending.not_hears {a : Signal} (he : Ending s.agenda) : ¬ Hears s a s' := by
  intro h
  cases h with
  | shutdown hagenda hwaits => exact absurd hwaits (by simp [he.waits_eq_false hagenda])
  | accepted hagenda | refused hagenda | list hagenda | lost hagenda | woke hagenda =>
    cases he.waits_eq_false hagenda

/-- One that is about to end and rests has ended. -/
theorem Ending.agenda_eq_nil (he : Ending s.agenda) (h : s.isResting = true) : s.agenda = [] := by
  unfold isResting at h
  cases hagenda : s.agenda with
  | nil => rfl
  | cons job rest =>
    rw [hagenda] at h
    exact absurd h (by simp [he.waits_eq_false hagenda])

/-! ## Moves and runs -/

/-- A move of a task is no sweep, and nothing to the monitor. -/
theorem of_task_move {m : Move} (hm : s.move m = some s') (htask : m.party ≠ .monitor) :
    s'.agenda = s.agenda ∧ s'.status = s.status ∧ m.signal? = none ∧ s.sweepOf m = [] := by
  cases m with
  | work | hear => exact absurd rfl htask
  | taskWork number =>
    obtain ⟨t, job, rest, w, -, -, -, rfl⟩ := taskWork_cases hm
    exact ⟨rfl, rfl, rfl, sweepOf_taskWork s number⟩
  | taskHear number a =>
    obtain ⟨t, t', -, -, -, rfl⟩ := taskHear_cases hm
    exact ⟨rfl, rfl, rfl, rfl⟩
  | taskEnd number =>
    obtain ⟨t, -, -, rfl⟩ := taskEnd_cases hm
    exact ⟨rfl, rfl, rfl, rfl⟩

theorem orderly_move (ho : Orderly s.agenda) {m : Move} (hm : s.move m = some s') :
    Orderly s'.agenda := by
  by_cases htask : m.party = .monitor
  · cases m with
    | work => exact (works_of_work hm).orderly ho
    | hear a => exact (hears_of_hear hm).orderly ho
    | taskWork | taskHear | taskEnd => cases htask
  · exact (of_task_move hm htask).1.symm ▸ ho

theorem Ending.move (he : Ending s.agenda) {m : Move} (hm : s.move m = some s') :
    Ending s'.agenda ∧ m.signal? = none := by
  by_cases htask : m.party = .monitor
  · cases m with
    | work => exact ⟨he.works (works_of_work hm), rfl⟩
    | hear a => exact absurd (hears_of_hear hm) he.not_hears
    | taskWork | taskHear | taskEnd => cases htask
  · obtain ⟨hagenda, -, hsignal, -⟩ := of_task_move hm htask
    exact ⟨hagenda.symm ▸ he, hsignal⟩

/-- What is due after a move: what was due before it or is called for by the signal that is heard in
it, but for the sweep that the move is. If the monitor gives up, one sweep more is due. -/
theorem move_sweeps (ho : Orderly s.agenda) {m : Move} (hm : s.move m = some s') :
    s.sweepOf m ++ dueSweeps s'.agenda =
        dueSweeps s.agenda ++ m.signal?.toList.filterMap (·.sweep?) ∨
      s.sweepOf m = [] ∧ m.signal? = none ∧ dueSweeps s.agenda = [] ∧
        dueSweeps s'.agenda = [.clear] ∧ ¬ Ending s.agenda ∧ Ending s'.agenda := by
  by_cases htask : m.party = .monitor
  · cases m with
    | work =>
      rcases (works_of_work hm).sweeps with hdue | ⟨rest, hretry, hquit⟩
      · rw [hdue]
        exact .inl (List.append_nil _).symm
      · rw [hretry] at ho
        obtain rfl := ho.eq_behind rfl
        rw [sweepOf, operation?_work hretry, hretry, hquit]
        exact .inr ⟨rfl, rfl, rfl, rfl, by simp [Ending, MonitorJob.isChore],
          by simp [Ending, MonitorJob.behind]⟩
    | hear a =>
      obtain ⟨hnone, hdue⟩ := (hears_of_hear hm).sweeps ho
      rw [hnone, hdue]
      refine .inl ?_
      cases a <;> rfl
    | taskWork | taskHear | taskEnd => cases htask
  · obtain ⟨hagenda, -, hsignal, hsweep⟩ := of_task_move hm htask
    rw [hagenda, hsignal, hsweep]
    exact .inl (List.append_nil _).symm

theorem sweeps_cons {m : Move} {s₁ : System} (hm : s.move m = some s₁) :
    (s.history (m :: moves)).filter (·.isSweep) =
      s.sweepOf m ++ (s₁.history moves).filter (·.isSweep) := by
  rw [history_cons hm, List.filter_append, sweepOf]

/-- A monitor that is about to end hears nothing, and does no sweep but those on its agenda. -/
theorem Ending.run (he : Ending s.agenda) (ho : Orderly s.agenda) (h : s.run moves = some s') :
    Ending s'.agenda ∧ signals moves = [] ∧
      (s.history moves).filter (·.isSweep) ++ dueSweeps s'.agenda = dueSweeps s.agenda := by
  induction moves generalizing s with
  | nil =>
    cases h
    exact ⟨he, rfl, rfl⟩
  | cons m moves ih =>
    obtain ⟨s₁, hm, hrun⟩ := Option.bind_eq_some_iff.1 h
    obtain ⟨he₁, hsignal⟩ := he.move hm
    obtain ⟨hend, hsignals, hsweeps⟩ := ih he₁ (orderly_move ho hm) hrun
    refine ⟨hend, by rw [signals_cons, hsignal, hsignals]; rfl, ?_⟩
    rw [sweeps_cons hm, List.append_assoc, hsweeps]
    rcases move_sweeps ho hm with hmove | ⟨-, -, -, -, hnot, -⟩
    · rw [hmove, hsignal]
      exact List.append_nil _
    · exact absurd he hnot

/-- The sweeps in a run are those that were due and those that its signals call for, in this order, as
far as they are not still due. A monitor that has given up has one more to do at the end. -/
theorem run_sweeps (ho : Orderly s.agenda) (h : s.run moves = some s') :
    let called := dueSweeps s.agenda ++ (signals moves).filterMap (·.sweep?)
    let done := (s.history moves).filter (·.isSweep) ++ dueSweeps s'.agenda
    done = called ∨ done = called ++ [.clear] ∧ Ending s'.agenda := by
  intro called done
  induction moves generalizing s with
  | nil =>
    cases h
    exact .inl (List.append_nil _).symm
  | cons m moves ih =>
    obtain ⟨s₁, hm, hrun⟩ := Option.bind_eq_some_iff.1 h
    have hdone : done = s.sweepOf m ++
        ((s₁.history moves).filter (·.isSweep) ++ dueSweeps s'.agenda) := by
      rw [← List.append_assoc, ← sweeps_cons hm]
    have hcalled : called = dueSweeps s.agenda ++ m.signal?.toList.filterMap (·.sweep?) ++
        (signals moves).filterMap (·.sweep?) := by
      rw [List.append_assoc, ← List.filterMap_append, ← signals_cons]
    rcases move_sweeps ho hm with hmove | ⟨hsweep, hsignal, hdue, hclear, -, he⟩
    · have hrest : done = called ++ [] ∨ done = called ++ [.clear] ∧ Ending s'.agenda := by
        rw [hdone, hcalled, ← hmove]
        rcases ih (orderly_move ho hm) hrun with ih | ⟨ih, hend⟩
        · exact .inl (by rw [ih]; simp)
        · exact .inr ⟨by rw [ih]; simp, hend⟩
      rwa [List.append_nil] at hrest
    · obtain ⟨hend, hsignals, hsweeps⟩ := he.run (orderly_move ho hm) hrun
      rw [hdone, hcalled, hsweep, hsweeps, hclear, hdue, hsignal, hsignals]
      exact .inr ⟨rfl, hend⟩

/-- After the end of the monitor nothing happens to the registry, and nothing is published. -/
theorem move_of_ended (hagenda : s.agenda = []) (hempty : s.shared.registry = .empty) {m : Move}
    (hm : s.move m = some s') :
    s'.agenda = [] ∧ s'.status = s.status ∧ s'.shared.registry = .empty ∧
      s'.events = s.events := by
  by_cases htask : m.party = .monitor
  · cases m with
    | work => simp [System.move, work, hagenda] at hm
    | hear a => simp [System.move, hear, hagenda] at hm
    | taskWork | taskHear | taskEnd => cases htask
  · obtain ⟨hagenda', hstatus, -, hsweep⟩ := of_task_move hm htask
    have hnone : ∀ op ∈ (s.operation? m).toList, ∀ list, op ≠ .applyList list := by
      rintro op hop list rfl
      have hmem : Operation.applyList list ∈ s.sweepOf m := List.mem_filter.2 ⟨hop, rfl⟩
      rw [hsweep] at hmem
      cases hmem
    obtain ⟨hregistry, hevents⟩ := does_move hm
    rw [hempty, Registry.performAll_empty hnone] at hregistry hevents
    exact ⟨hagenda'.trans hagenda, hstatus, hregistry, hevents.trans (List.append_nil _)⟩

/-- Before the monitor hears of a device list nothing is published. -/
theorem events_eq_nil_of_no_list {m : MonitorSettings} (h : (start m).run moves = some s)
    (hnone : ∀ list, .list list ∉ signals moves) : s.events = [] := by
  have hops : ∀ op ∈ (start m).history moves, ∀ list, op ≠ .applyList list := by
    rintro op hop list rfl
    have hdone : Operation.applyList list ∈
        ((start m).history moves).filter (·.isSweep) ++ dueSweeps s.agenda :=
      List.mem_append_left _ (List.mem_filter.2 ⟨hop, rfl⟩)
    have hcalled : Operation.applyList list ∈ (signals moves).filterMap (·.sweep?) := by
      rcases run_sweeps Orderly.opening h with hsweeps | ⟨hsweeps, -⟩
      · rw [hsweeps] at hdone
        exact hdone
      · rw [hsweeps] at hdone
        rcases List.mem_append.1 hdone with hdone | hdone
        · exact hdone
        · cases List.mem_singleton.1 hdone
    obtain ⟨a, ha, hsweep⟩ := List.mem_filterMap.1 hcalled
    cases a with
    | list entries =>
      cases hsweep
      exact hnone list ha
    | _ => cases hsweep
  obtain ⟨-, hevents⟩ := run_history h
  have hempty : (start m).shared.registry.performAll ((start m).history moves) = (.empty, []) :=
    Registry.performAll_empty hops
  rw [hevents, hempty]
  rfl

/-- A monitor that is told to stop can come to its end. -/
theorem exists_run_ended (ho : Orderly s.agenda) :
    ∃ moves s', s.run moves = some s' ∧ s'.agenda = [] ∧
      ∀ m ∈ moves, m = .work ∨ m = .hear .shutdown := by
  have hworks : ∀ n, ∀ m ∈ List.replicate n Move.work, m = .work ∨ m = .hear .shutdown :=
    fun n m hm => .inl (List.eq_of_mem_replicate hm)
  obtain ⟨n, s₁, hrun₁, hrest₁⟩ := ho.settles
  have ho₁ : Orderly s₁.agenda := run_induction (fun ho hm => orderly_move ho hm) ho hrun₁
  cases hagenda : s₁.agenda with
  | nil => exact ⟨_, s₁, hrun₁, hagenda, hworks n⟩
  | cons job rest =>
    have hwaits : job.waits = true := by
      rw [isResting, hagenda] at hrest₁
      exact hrest₁
    obtain ⟨s₂, hhear, hagenda₂⟩ : ∃ s₂, s₁.move (.hear .shutdown) = some s₂ ∧
        s₂.agenda = [.quit] := by
      rw [System.move, hear, hagenda]
      simp [hwaits]
    have ho₂ : Orderly s₂.agenda := hagenda₂ ▸ .quitting
    obtain ⟨k, s₃, hrun₃, hrest₃⟩ := ho₂.settles
    have he : Ending s₂.agenda := by
      rw [hagenda₂]
      simp [Ending]
    refine ⟨List.replicate n .work ++ .hear .shutdown :: List.replicate k .work, s₃, ?_,
      (he.run ho₂ hrun₃).1.agenda_eq_nil hrest₃, ?_⟩
    · rw [run_append, hrun₁, Option.bind_some, run_cons, hhear]
      exact hrun₃
    · intro m hm
      rcases List.mem_append.1 hm with hm | hm
      · exact hworks n m hm
      · rcases List.mem_cons.1 hm with rfl | hm
        · exact .inr rfl
        · exact hworks k m hm

end System

end DebugBridge
