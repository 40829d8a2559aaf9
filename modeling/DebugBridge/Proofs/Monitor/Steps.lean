import DebugBridge.Monitor.Interleaving
import Mathlib.Tactic.SplitIfs

/-!
# What a step can be

What holds in every run is shown step by step. The steps that are possible are listed here once:
those of the monitor by its first job (`Works`) or by the signal it hears (`Hears`), those of a task
by its first job (`taskWork_cases`, `taskHear_cases`, `taskEnd_cases`).

The monitor's agenda has few forms (`Orderly`): some chores, which concern single devices, and then
the one or two jobs that say how it stands with the stream of device lists.
-/

namespace DebugBridge

namespace System

variable {s s' : System}

/-! ## The monitor works -/

/-- A step of the monitor by its first job. -/
inductive Works (s : System) : System → Prop
  | handle {e : Event} {rest : List MonitorJob} (h : s.agenda = .handle e :: rest) :
    Works s { (s.handle e).1 with agenda := (s.handle e).2 ++ rest }
  | clearClients {serial : String} {rest : List MonitorJob}
      (h : s.agenda = .clearClients serial :: rest) :
    Works s { s.publish (s.shared.registry.clearClients serial) with
      agenda := MonitorJob.releases (s.shared.registry.clearClients serial).result ++ rest }
  | release {port : UInt16} {rest : List MonitorJob} (h : s.agenda = .release port :: rest) :
    Works s { s with
      shared := { s.shared with ports := s.shared.ports.release port }, agenda := rest }
  | applyList {list : List Listed} {rest : List MonitorJob}
      (h : s.agenda = .applyList list :: rest) :
    Works s { s.publish (s.shared.registry.applyList list) with
      agenda := (s.shared.registry.applyList list).events.map .handle ++ rest }
  | clear {rest : List MonitorJob} (h : s.agenda = .clear :: rest) :
    Works s { s.publish s.shared.registry.clear with
      agenda := s.shared.registry.clear.events.map .handle ++ rest }
  | giveUp {rest : List MonitorJob} (h : s.agenda = .retry :: rest)
      (hmost : givesUp s.settings (s.failures + 1) = true) :
    Works s { s with failures := s.failures + 1, agenda := .quit :: rest }
  | retry {rest : List MonitorJob} (h : s.agenda = .retry :: rest)
      (hmost : givesUp s.settings (s.failures + 1) = false) :
    Works s { s with
      failures := s.failures + 1
      status := .reconnecting (s.failures + 1)
      agenda := .sleep (Task.backoffWait s.settings (s.failures + 1)) :: .openStream :: rest }
  | quit {rest : List MonitorJob} (h : s.agenda = .quit :: rest) :
    Works s { { s.abort (s.kept.entries.flatMap Prod.snd) with
        kept := .empty }.publish s.shared.registry.clear with
      agenda := lastReleases s.shared.registry.clear.events ++ [MonitorJob.finish] ++ rest }
  | finish {rest : List MonitorJob} (h : s.agenda = .finish :: rest) :
    Works s { s with status := .stopped, agenda := rest }

theorem perform_retry (s : System) : s.perform .retry =
    if givesUp s.settings (s.failures + 1) then
      some ({ s with failures := s.failures + 1 }, [.quit])
    else some
      ({ s with failures := s.failures + 1, status := .reconnecting (s.failures + 1) },
        [.sleep (Task.backoffWait s.settings (s.failures + 1)), .openStream]) := rfl

theorem works_of_work (h : s.work = some s') : Works s s' := by
  unfold work at h
  split at h
  · cases h
  · rename_i job rest hagenda
    obtain ⟨⟨s₀, jobs⟩, hperform, rfl⟩ := Option.map_eq_some_iff.1 h
    cases job with
    | handle e =>
      have hhandle : s.handle e = (s₀, jobs) := Option.some.inj hperform
      have := Works.handle hagenda
      rwa [hhandle] at this
    | clearClients serial => cases hperform; exact .clearClients hagenda
    | release port => cases hperform; exact .release hagenda
    | applyList list => cases hperform; exact .applyList hagenda
    | clear => cases hperform; exact .clear hagenda
    | retry =>
      rw [perform_retry] at hperform
      split_ifs at hperform with hmost
      · cases hperform; exact .giveUp hagenda hmost
      · cases hperform; exact .retry hagenda (by simpa using hmost)
    | quit => cases hperform; exact .quit hagenda
    | finish => cases hperform; exact .finish hagenda
    | openStream | nextList | sleep => cases hperform

/-! ## The monitor hears -/

/-- A step of the monitor by the signal it hears. -/
inductive Hears (s : System) : Signal → System → Prop
  | shutdown {job : MonitorJob} {rest : List MonitorJob} (h : s.agenda = job :: rest)
      (hwaits : job.waits = true) :
    Hears s .shutdown { s with agenda := [.quit] }
  | accepted {rest : List MonitorJob} (h : s.agenda = .openStream :: rest) :
    Hears s .accepted { s with
      status := .connected, failures := 0, agenda := .nextList :: rest }
  | refused {rest : List MonitorJob} (h : s.agenda = .openStream :: rest) :
    Hears s .refused { s with agenda := .retry :: rest }
  | list {entries : List Listed} {rest : List MonitorJob} (h : s.agenda = .nextList :: rest) :
    Hears s (.list entries) { s with agenda := .applyList entries :: .nextList :: rest }
  | lost {rest : List MonitorJob} (h : s.agenda = .nextList :: rest) :
    Hears s .lost { s with agenda := .clear :: .retry :: rest }
  | woke {wait : Duration} {rest : List MonitorJob} (h : s.agenda = .sleep wait :: rest) :
    Hears s .woke { s with agenda := rest }

theorem hears_of_hear {a : Signal} (h : s.hear a = some s') : Hears s a s' := by
  unfold hear at h
  split at h
  · cases h
  · rename_i job rest hagenda
    split_ifs at h with hwaits
    split at h
    · cases h; exact .shutdown hagenda (by simpa using hwaits)
    · cases h; exact .accepted hagenda
    · cases h; exact .refused hagenda
    · cases h; exact .list hagenda
    · cases h; exact .lost hagenda
    · cases h; exact .woke hagenda
    · cases h

/-! ## The forms of the monitor's agenda -/

end System

/-- Does the job concern a single device? -/
def MonitorJob.isChore : MonitorJob → Bool
  | .handle _ | .clearClients _ | .release _ => true
  | _ => false

/-- The jobs behind one that is no chore. -/
def MonitorJob.behind : MonitorJob → List MonitorJob
  | .applyList _ => [.nextList]
  | .clear => [.retry]
  | .sleep _ => [.openStream]
  | _ => []

theorem MonitorJob.isChore_of_mem_behind {job j : MonitorJob} (h : j ∈ job.behind) :
    j.isChore = false := by
  cases job with
  | applyList | clear | sleep =>
    obtain rfl := List.mem_singleton.1 h
    rfl
  | _ => cases h

theorem MonitorJob.isChore_eq_false_of_waits {job : MonitorJob} (h : job.waits = true) :
    job.isChore = false := by
  cases job <;> first | rfl | cases h

theorem Client.eq_release_of_mem {α : Type} {release : UInt16 → α} {clients : List Client} {job : α}
    (h : job ∈ clients.filterMap fun c => c.debuggerPort.map release) :
    ∃ port, job = release port := by
  obtain ⟨c, -, hc⟩ := List.mem_filterMap.1 h
  obtain ⟨port, -, rfl⟩ := Option.map_eq_some_iff.1 hc
  exact ⟨port, rfl⟩

theorem MonitorJob.isChore_of_mem_releases {clients : List Client} {job : MonitorJob}
    (h : job ∈ MonitorJob.releases clients) : job.isChore = true := by
  obtain ⟨port, rfl⟩ := Client.eq_release_of_mem h
  rfl

namespace System

variable {s s' : System}

/-- An agenda that the monitor can have. -/
inductive Orderly : List MonitorJob → Prop
  | opening : Orderly [.openStream]
  | following : Orderly [.nextList]
  | listed (list : List Listed) : Orderly [.applyList list, .nextList]
  | parting : Orderly [.clear, .retry]
  | failing : Orderly [.retry]
  | sleeping (wait : Duration) : Orderly [.sleep wait, .openStream]
  | quitting : Orderly [.quit]
  | finishing : Orderly [.finish]
  | ended : Orderly []
  | chore {job : MonitorJob} {rest : List MonitorJob} (h : job.isChore = true)
      (hrest : Orderly rest) : Orderly (job :: rest)

theorem Orderly.append {chores rest : List MonitorJob} (h : ∀ job ∈ chores, job.isChore = true)
    (hrest : Orderly rest) : Orderly (chores ++ rest) := by
  induction chores with
  | nil => exact hrest
  | cons job chores ih =>
    obtain ⟨hjob, hchores⟩ := List.forall_mem_cons.1 h
    exact .chore hjob (ih hchores)

theorem Orderly.of_chore {job : MonitorJob} {rest : List MonitorJob} (ho : Orderly (job :: rest))
    (h : job.isChore = true) : Orderly rest := by
  cases ho with
  | chore _ hrest => exact hrest
  | _ => cases h

theorem isChore_of_mem_handle {e : Event} {job : MonitorJob} (h : job ∈ (s.handle e).2) :
    job.isChore = true := by
  cases e with
  | connected d => cases h
  | changed d what =>
    cases what with
    | state =>
      simp only [handle] at h
      split_ifs at h
      · cases h
      · obtain rfl := List.mem_singleton.1 h
        rfl
    | clientList | buildInfo => cases h
  | disconnected d =>
    rcases List.mem_cons.1 h with rfl | h
    · rfl
    · exact MonitorJob.isChore_of_mem_releases h

theorem isChore_of_mem_map_handle {events : List Event} {job : MonitorJob}
    (h : job ∈ events.map .handle) : job.isChore = true := by
  obtain ⟨e, -, rfl⟩ := List.mem_map.1 h
  rfl

theorem isChore_of_mem_lastReleases {events : List Event} {job : MonitorJob}
    (h : job ∈ lastReleases events) : job.isChore = true := by
  obtain ⟨e, -, he⟩ := List.mem_flatMap.1 h
  cases e with
  | disconnected d => exact MonitorJob.isChore_of_mem_releases he
  | connected | changed => cases he

/-- A job that is no chore tells what is behind it. -/
theorem Orderly.eq_behind {job : MonitorJob} {rest : List MonitorJob}
    (ho : Orderly (job :: rest)) (h : job.isChore = false) : rest = job.behind := by
  cases ho with
  | chore hjob =>
    rw [h] at hjob
    cases hjob
  | _ => rfl

theorem Works.orderly (h : Works s s') (ho : Orderly s.agenda) : Orderly s'.agenda := by
  cases h with
  | handle hagenda =>
    rw [hagenda] at ho
    exact .append (fun _ => isChore_of_mem_handle) (ho.of_chore rfl)
  | clearClients hagenda =>
    rw [hagenda] at ho
    exact .append (fun _ => MonitorJob.isChore_of_mem_releases) (ho.of_chore rfl)
  | release hagenda =>
    rw [hagenda] at ho
    exact ho.of_chore rfl
  | applyList hagenda =>
    rw [hagenda] at ho
    obtain rfl := ho.eq_behind rfl
    exact .append (fun _ => isChore_of_mem_map_handle) .following
  | clear hagenda =>
    rw [hagenda] at ho
    obtain rfl := ho.eq_behind rfl
    exact .append (fun _ => isChore_of_mem_map_handle) .failing
  | giveUp hagenda =>
    rw [hagenda] at ho
    obtain rfl := ho.eq_behind rfl
    exact .quitting
  | retry hagenda =>
    rw [hagenda] at ho
    obtain rfl := ho.eq_behind rfl
    exact .sleeping _
  | quit hagenda =>
    rw [hagenda] at ho
    obtain rfl := ho.eq_behind rfl
    rw [show MonitorJob.quit.behind = [] from rfl, List.append_nil]
    exact .append (fun _ => isChore_of_mem_lastReleases) .finishing
  | finish hagenda =>
    rw [hagenda] at ho
    obtain rfl := ho.eq_behind rfl
    exact .ended

theorem Hears.orderly {a : Signal} (h : Hears s a s') (ho : Orderly s.agenda) :
    Orderly s'.agenda := by
  cases h with
  | shutdown => exact .quitting
  | accepted hagenda =>
    rw [hagenda] at ho
    obtain rfl := ho.eq_behind rfl
    exact .following
  | refused hagenda =>
    rw [hagenda] at ho
    obtain rfl := ho.eq_behind rfl
    exact .failing
  | list hagenda =>
    rw [hagenda] at ho
    obtain rfl := ho.eq_behind rfl
    exact .listed _
  | lost hagenda =>
    rw [hagenda] at ho
    obtain rfl := ho.eq_behind rfl
    exact .parting
  | woke hagenda =>
    rw [hagenda] at ho
    obtain rfl := ho.eq_behind rfl
    exact .opening

/-- Behind a job that is no chore there are no chores. -/
theorem Orderly.isChore_rest {job : MonitorJob} {rest : List MonitorJob}
    (ho : Orderly (job :: rest)) (h : job.isChore = false) {j : MonitorJob}
    (hj : j ∈ job :: rest) : j.isChore = false := by
  rcases List.mem_cons.1 hj with rfl | hj
  · exact h
  · exact MonitorJob.isChore_of_mem_behind (ho.eq_behind h ▸ hj)

/-- Once the monitor waits, it has no chores left. -/
theorem Orderly.isChore_eq_false (ho : Orderly s.agenda) (hrest : s.isResting = true)
    {job : MonitorJob} (hjob : job ∈ s.agenda) : job.isChore = false := by
  unfold isResting at hrest
  cases hagenda : s.agenda with
  | nil =>
    rw [hagenda] at hjob
    cases hjob
  | cons first rest =>
    rw [hagenda] at ho hrest hjob
    exact ho.isChore_rest (MonitorJob.isChore_eq_false_of_waits (by simpa using hrest)) hjob

/-! ## Tasks -/

theorem getElem?_tasks_set {number : Nat} {t t' : Task} (ht : s.tasks[number]? = some t) :
    (s.tasks.set number t')[number]? = some t' := by
  obtain ⟨hlt, -⟩ := List.getElem?_eq_some_iff.1 ht
  rw [List.getElem?_set_self hlt]

theorem taskWork_cases {number : Nat} (h : s.taskWork number = some s') :
    ∃ t job rest w, s.tasks[number]? = some t ∧ t.agenda = job :: rest ∧
      t.perform s.settings s.shared job = some w ∧
      s' = { s with
        shared := w.shared
        tasks := s.tasks.set number { t with failures := w.failures, agenda := w.jobs ++ rest }
        events := s.events ++ w.events } := by
  obtain ⟨t, ht, h⟩ := Option.bind_eq_some_iff.1 h
  obtain ⟨⟨t', shared, events⟩, hwork, h⟩ := Option.bind_eq_some_iff.1 h
  unfold Task.work at hwork
  split at hwork
  · cases hwork
  · rename_i job rest hagenda
    obtain ⟨w, hw, hwork⟩ := Option.map_eq_some_iff.1 hwork
    cases hwork
    cases h
    exact ⟨t, job, rest, w, ht, hagenda, hw, rfl⟩

/-- A task that has taken in an answer has other jobs in the place of the first. -/
theorem hear_cases {t t' : Task} {a : Answer} (h : t.hear a = some t') :
    ∃ job rest jobs failures, t.agenda = job :: rest ∧ Task.heard job a = some jobs ∧
      t' = { t with failures, agenda := jobs ++ rest } := by
  unfold Task.hear at h
  split at h
  · cases h
  · rename_i job rest hagenda
    obtain ⟨jobs, hjobs, rfl⟩ := Option.map_eq_some_iff.1 h
    exact ⟨job, rest, jobs, _, hagenda, hjobs, rfl⟩

theorem taskHear_cases {number : Nat} {a : Answer} (h : s.taskHear number a = some s') :
    ∃ t t', s.tasks[number]? = some t ∧ t.aborted = false ∧ t.hear a = some t' ∧
      s' = { s with tasks := s.tasks.set number t' } := by
  obtain ⟨t, ht, h⟩ := Option.bind_eq_some_iff.1 h
  split_ifs at h with haborted
  obtain ⟨t', ht', h⟩ := Option.bind_eq_some_iff.1 h
  cases h
  exact ⟨t, t', ht, by simpa using haborted, ht', rfl⟩

theorem taskEnd_cases {number : Nat} (h : s.taskEnd number = some s') :
    ∃ t, s.tasks[number]? = some t ∧ t.waits = true ∧
      s' = { s with tasks := s.tasks.set number { t with agenda := [] } } := by
  obtain ⟨t, ht, h⟩ := Option.bind_eq_some_iff.1 h
  split_ifs at h with hends
  cases h
  exact ⟨t, ht, (Bool.and_eq_true _ _ ▸ hends).2, rfl⟩

/-! ## Starting and stopping tasks -/

theorem eq_of_mem_tasksFor {m : MonitorSettings} {serial : String} {t : Task}
    (h : t ∈ tasksFor m serial) : t = .setup m serial ∨ t = .tracker serial := by
  unfold tasksFor at h
  rcases List.mem_append.1 h with h | h
  · split_ifs at h
    · exact .inl (List.mem_singleton.1 h)
    · cases h
  · split_ifs at h
    · exact .inr (List.mem_singleton.1 h)
    · cases h

/-- A new setup task has but questions to ask. -/
theorem mem_setup {m : MonitorSettings} {serial : String} {job : Job}
    (h : job ∈ (Task.setup m serial).agenda) :
    job = .askProperties ∨ (∃ name, job = .askMountPoint name) ∨
      ∃ port, job = .askAvdName port := by
  simp only [Task.setup] at h
  rcases List.mem_append.1 h with h | h
  · split_ifs at h
    · rcases List.mem_cons.1 h with rfl | h
      · exact .inl rfl
      · obtain ⟨name, -, rfl⟩ := List.mem_map.1 h
        exact .inr (.inl ⟨name, rfl⟩)
    · cases h
  · split at h
    · exact .inr (.inr ⟨_, List.mem_singleton.1 h⟩)
    · cases h

/-- The jobs of a new task wait. -/
theorem waits_of_mem_tasksFor {m : MonitorSettings} {serial : String} {t : Task}
    (h : t ∈ tasksFor m serial) {job : Job} (hjob : job ∈ t.agenda) : job.waits = true := by
  rcases eq_of_mem_tasksFor h with rfl | rfl
  · rcases mem_setup hjob with rfl | ⟨name, rfl⟩ | ⟨port, rfl⟩ <;> rfl
  · obtain rfl := List.mem_singleton.1 hjob
    rfl

/-- A device whose tasks are started had none, and one whose tasks are stopped had some. -/
theorem handle_induction {P : System → Prop} (hsame : P s)
    (hstart : ∀ serial, s.kept.get? serial = none →
      P { s with
        kept := s.kept.insert serial
          ((List.range (tasksFor s.settings serial).length).map (s.tasks.length + ·))
        tasks := s.tasks ++ tasksFor s.settings serial })
    (hstop : ∀ serial numbers, s.kept.get? serial = some numbers →
      P { s.abort numbers with kept := s.kept.erase serial }) (e : Event) :
    P (s.handle e).1 := by
  have hbring : ∀ serial, P (s.bringOnline serial) := by
    intro serial
    unfold bringOnline
    split
    · exact hsame
    · exact hstart serial ‹_›
  have htake : ∀ serial, P (s.takeOffline serial) := by
    intro serial
    unfold takeOffline
    split
    · exact hstop serial _ ‹_›
    · exact hsame
  cases e with
  | connected d =>
    simp only [handle]
    split_ifs
    · exact hbring _
    · exact hsame
  | changed d what =>
    cases what with
    | state =>
      simp only [handle]
      split_ifs
      · exact hbring _
      · exact htake _
    | clientList | buildInfo => exact hsame
  | disconnected d => exact htake _

/-- To heed an event is to start or to stop tasks, and nothing else. -/
theorem handle_eq (s : System) (e : Event) :
    ∃ kept tasks, (s.handle e).1 = { s with kept, tasks } :=
  handle_induction (P := fun s' => ∃ kept tasks, s' = { s with kept, tasks })
    ⟨_, _, rfl⟩ (fun _ _ => ⟨_, _, rfl⟩) (fun _ _ _ => ⟨_, _, rfl⟩) e

@[simp] theorem shared_handle (e : Event) : (s.handle e).1.shared = s.shared := by
  obtain ⟨kept, tasks, heq⟩ := s.handle_eq e
  rw [heq]

theorem agendas_abort (s : System) (numbers : List Nat) :
    (s.abort numbers).tasks.map Task.agenda = s.tasks.map Task.agenda := by
  have : ∀ p : Task × Nat,
      (if numbers.contains p.2 then { p.1 with aborted := true } else p.1).agenda = p.1.agenda := by
    intro p
    split_ifs <;> rfl
  simp only [abort, List.map_map, Function.comp_def, this]
  calc s.tasks.zipIdx.map (fun p => p.1.agenda)
      = (s.tasks.zipIdx.map Prod.fst).map Task.agenda := by rw [List.map_map]; rfl
    _ = s.tasks.map Task.agenda := by rw [List.zipIdx_map_fst]

theorem Hears.shared_eq {a : Signal} (h : Hears s a s') : s'.shared = s.shared := by
  cases h <;> rfl

theorem Hears.tasks_eq {a : Signal} (h : Hears s a s') : s'.tasks = s.tasks := by
  cases h <;> rfl

/-! ## Runs -/

theorem run_cons {m : Move} {moves : List Move} :
    s.run (m :: moves) = (s.move m).bind fun s => s.run moves := rfl

theorem run_append {moves more : List Move} :
    s.run (moves ++ more) = (s.run moves).bind fun s => s.run more := by
  rw [run, List.foldlM_append]
  rfl

theorem run_singleton {m : Move} : s.run [m] = s.move m := by
  rw [run_cons]
  cases s.move m <;> rfl

theorem signals_cons (m : Move) (moves : List Move) :
    signals (m :: moves) = m.signal?.toList ++ signals moves := by
  unfold signals
  cases h : m.signal? <;> simp [h]

theorem signals_append (moves more : List Move) :
    signals (moves ++ more) = signals moves ++ signals more := List.filterMap_append

theorem signals_replicate_work (n : Nat) : signals (List.replicate n .work) = [] := by
  rw [signals, List.filterMap_replicate_of_none rfl]

/-- What every move keeps, every run keeps. -/
theorem run_induction {P : System → Prop} (hmove : ∀ {s m s'}, P s → s.move m = some s' → P s')
    {moves : List Move} (h : P s) (hrun : s.run moves = some s') : P s' := by
  induction moves generalizing s with
  | nil =>
    cases hrun
    exact h
  | cons m moves ih =>
    obtain ⟨s₁, hm, hrun⟩ := Option.bind_eq_some_iff.1 hrun
    exact ih (hmove h hm) hrun

/-- What is kept by every move of a party that is alone is kept by uninterrupted runs. -/
theorem uninterrupted_induction {P : System → Prop}
    (hmove : ∀ {s m s'}, P s → s.isAlone m.party = true → s.move m = some s' → P s')
    {moves : List Move} (h : P s) (halone : s.uninterrupted moves = true)
    (hrun : s.run moves = some s') : P s' := by
  induction moves generalizing s with
  | nil =>
    cases hrun
    exact h
  | cons m moves ih =>
    obtain ⟨s₁, hm, hrun⟩ := Option.bind_eq_some_iff.1 hrun
    obtain ⟨halone, hothers⟩ := Bool.and_eq_true _ _ ▸ halone
    rw [hm] at hothers
    exact ih (hmove h halone hm) hothers hrun

/-- A monitor that does nothing but track clients, without greeting them. -/
def clientsOnly : MonitorSettings :=
  { Settings.standard.monitor with
    queryDeviceInfo := false, queryAvdName := false, jdwpHandshake := false }

end System

end DebugBridge
