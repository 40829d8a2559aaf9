import DebugBridge.Proofs.Monitor.Steps
import DebugBridge.Proofs.Registry.Clients

/-!
# What a task does

A task works off its jobs (`Performs`), or an answer puts other jobs in the place of the first
(`Takes`). Its agenda is ordered: ports that it has in hand come before the processes that it has
heard of, and these before the rest (`ByUrgency`). So a task that waits has no port in hand, and one
that waits for a list of processes has dealt with all of the last one.

A task leaves the states of devices as they are, and a client is brought by no job but the one that
registers it.

Results:
* `performs_of_perform`, `takes_of_heard`: all that a task can do.
* `byUrgency_perform`, `byUrgency_heard`: its agenda stays ordered.
* `state?_perform`, `mem_pids_perform`, `perform_of_empty`: what it does to the registry.
* `forall_tasks_of_move`: what each task keeps by itself holds of all tasks.
-/

namespace DebugBridge

/-! ## What jobs are for -/

/-- Is the job to follow the list of processes, and to try again? -/
def Job.isRoutine : Job → Bool
  | .openStream | .nextPids | .sleep _ | .closeStream | .clear
  | .checkAfterList | .checkBeforeSleep | .checkAfterSleep => true
  | _ => false

/-- Is the job to ask a device about itself, or to keep its answer? -/
def Job.isInquiry : Job → Bool
  | .askProperties | .askMountPoint _ | .askAvdName _
  | .setProperties _ | .setMountPoint _ _ | .setAvdName _ => true
  | _ => false

/-- The urgency of a job: to do something with a port, to deal with the processes of a list, or
neither. -/
def Job.urgency : Job → Nat
  | .release _ | .register _ => 2
  | .greet _ | .describe _ | .retain _ | .survey _ | .allocate _ _ => 1
  | _ => 0

theorem Job.urgency_of_isRoutine {job : Job} (h : job.isRoutine = true) : job.urgency = 0 := by
  cases job <;> first | rfl | cases h

theorem Job.urgency_of_isInquiry {job : Job} (h : job.isInquiry = true) : job.urgency = 0 := by
  cases job <;> first | rfl | cases h

theorem Job.urgency_le_of_isRoutine {job : Job} (h : job.isRoutine = true) : job.urgency ≤ 1 :=
  urgency_of_isRoutine h ▸ Nat.zero_le 1

theorem Job.urgency_le_of_isInquiry {job : Job} (h : job.isInquiry = true) : job.urgency ≤ 1 :=
  urgency_of_isInquiry h ▸ Nat.zero_le 1

theorem Job.urgency_of_waits {job : Job} (h : job.waits = true) : job.urgency ≤ 1 := by
  cases job <;> first | exact Nat.zero_le _ | exact Nat.le_refl _ | cases h

/-! ## Jobs in order -/

/-- No job comes before a more urgent one. -/
def ByUrgency (agenda : List Job) : Prop := agenda.Pairwise fun a b => b.urgency ≤ a.urgency

theorem ByUrgency.le {job : Job} {rest : List Job} (h : ByUrgency (job :: rest)) {j : Job}
    (hj : j ∈ job :: rest) : j.urgency ≤ job.urgency := by
  rcases List.mem_cons.1 hj with rfl | hj
  · exact Nat.le_refl _
  · exact (List.pairwise_cons.1 h).1 j hj

theorem ByUrgency.of_eq {jobs : List Job} {urgency : Nat} (h : ∀ j ∈ jobs, j.urgency = urgency) :
    ByUrgency jobs :=
  List.pairwise_of_forall_mem_list fun a ha b hb => Nat.le_of_eq ((h b hb).trans (h a ha).symm)

/-- In the place of a first job there may be others that are at least as urgent. -/
theorem ByUrgency.replace {job : Job} {rest jobs : List Job} (h : ByUrgency (job :: rest))
    (hjobs : ByUrgency jobs) (hle : ∀ j ∈ jobs, job.urgency ≤ j.urgency) :
    ByUrgency (jobs ++ rest) := by
  refine List.pairwise_append.2 ⟨hjobs, (List.pairwise_cons.1 h).2, fun a ha b hb => ?_⟩
  exact Nat.le_trans (h.le (List.mem_cons_of_mem _ hb)) (hle a ha)

/-- In the place of a first job that is not urgent there may be others that are not. -/
theorem ByUrgency.replace_idle {job : Job} {rest jobs : List Job} (h : ByUrgency (job :: rest))
    (hjob : job.urgency = 0) (hjobs : ∀ j ∈ jobs, j.urgency = 0) : ByUrgency (jobs ++ rest) :=
  h.replace (.of_eq hjobs) fun _ _ => hjob ▸ Nat.zero_le _

namespace Task

variable {m : MonitorSettings} {t : Task} {g : Shared} {job : Job} {w : Work} {a : Answer}
  {jobs : List Job}

/-! ## Jobs that do not wait -/

/-- What a task makes of a job that does not wait. -/
inductive Performs (m : MonitorSettings) (t : Task) (g : Shared) : Job → Work → Prop
  /-- Clients are dropped. -/
  | dismiss {job : Job} {p : Client → Bool} {u : Update (Option (List Client))}
    (hjob : job = .clear ∨ ∃ pids, job = .retain pids)
    (hu : u = g.registry.edit t.serial .clientList (Registry.clientsKept p)) :
    Performs m t g job
      ⟨{ g with registry := u.registry }, u.events, t.failures, Job.releases (u.result.getD [])⟩
  | survey {pids unknown : List UInt32}
    (hunknown : unknown = pids.filter fun pid => ! (g.registry.pids t.serial).contains pid) :
    Performs m t g (.survey pids)
      ⟨g, [], t.failures, unknown.map (if m.jdwpHandshake then .greet else .describe)⟩
  | release (port : UInt16) :
    Performs m t g (.release port) ⟨{ g with ports := g.ports.release port }, [], t.failures, []⟩
  | allocate (pid : UInt32) (description : Option String) :
    Performs m t g (.allocate pid description)
      ⟨{ g with ports := g.ports.take.2 }, [], t.failures,
        [.register ⟨pid, t.serial, description, g.ports.take.1⟩]⟩
  | enroll {c : Client} (hknown : (g.registry.addClient c).result = true) :
    Performs m t g (.register c)
      ⟨{ g with registry := (g.registry.addClient c).registry }, (g.registry.addClient c).events,
        t.failures, []⟩
  /-- The device is not known any more. -/
  | reject {c : Client} (hknown : (g.registry.addClient c).result = false) :
    Performs m t g (.register c)
      ⟨{ g with registry := (g.registry.addClient c).registry }, (g.registry.addClient c).events,
        t.failures, Job.releases [c]⟩
  /-- A tracker goes on, tries again or ends. -/
  | goOn {job : Job} {failures : Nat} {jobs : List Job} (hjob : job.isRoutine = true)
    (hjobs : ∀ j ∈ jobs, j.isRoutine = true) : Performs m t g job ⟨g, [], failures, jobs⟩
  /-- An answer is kept. -/
  | keep {job : Job} {f : Record → Registry.Edit Unit} {u : Update (Option Unit)}
    (hjob : job.isInquiry = true) (hu : u = g.registry.edit t.serial .buildInfo f)
    (hstate : ∀ r, (f r).record.state = r.state)
    (hclients : ∀ r, (f r).record.clients = r.clients) :
    Performs m t g job ⟨{ g with registry := u.registry }, u.events, t.failures, []⟩

theorem perform_checkBeforeSleep (m : MonitorSettings) (t : Task) (g : Shared) :
    t.perform m g .checkBeforeSleep =
      if g.registry.isOnline t.serial then
        some ⟨g, [], t.failures + 1, [.sleep (backoffWait m (t.failures + 1)), .checkAfterSleep]⟩
      else some ⟨g, [], t.failures, []⟩ := rfl

theorem performs_of_perform (h : t.perform m g job = some w) : Performs m t g job w := by
  cases job with
  | retain pids =>
    cases h
    exact .dismiss (.inr ⟨pids, rfl⟩) rfl
  | clear =>
    cases h
    exact .dismiss (.inl rfl) rfl
  | survey pids =>
    cases h
    exact .survey rfl
  | release port =>
    cases h
    exact .release port
  | allocate pid description =>
    cases h
    exact .allocate pid description
  | register c =>
    cases h
    cases hknown : (g.registry.addClient c).result with
    | true => exact .enroll hknown
    | false => exact .reject hknown
  | checkAfterList | checkAfterSleep =>
    cases h
    exact .goOn rfl fun j hj => by grind [Job.isRoutine]
  | checkBeforeSleep =>
    rw [perform_checkBeforeSleep] at h
    split_ifs at h <;> cases h <;> exact .goOn rfl fun j hj => by grind [Job.isRoutine]
  | setProperties | setMountPoint | setAvdName =>
    cases h
    exact .keep rfl rfl (Registry.state_setUnless fun _ => rfl)
      (Registry.clients_setUnless fun _ => rfl)
  | openStream | nextPids | greet | describe | sleep | closeStream | askProperties
  | askMountPoint | askAvdName => cases h

theorem waits_of_perform (h : t.perform m g job = some w) : job.waits = false := by
  cases job with
  | openStream | nextPids | greet | describe | sleep | closeStream | askProperties
  | askMountPoint | askAvdName => cases h
  | _ => rfl

/-! ## Answers -/

/-- What an answer puts in the place of the job that waits for it. -/
inductive Takes : Job → Answer → List Job → Prop
  | pids (list : List UInt32) :
    Takes .nextPids (.pids list) [.retain list, .survey list, .checkAfterList]
  | greeted (pid : UInt32) : Takes (.greet pid) (.greeted true) [.describe pid]
  | shunned (pid : UInt32) : Takes (.greet pid) (.greeted false) []
  | described (pid : UInt32) (name : Option String) :
    Takes (.describe pid) (.described name) [.allocate pid name]
  | goOn {job : Job} {a : Answer} {jobs : List Job} (hjob : job.isRoutine = true)
    (hjobs : ∀ j ∈ jobs, j.isRoutine = true) : Takes job a jobs
  | answered {job : Job} {a : Answer} {jobs : List Job} (hjob : job.isInquiry = true)
    (hjobs : ∀ j ∈ jobs, j.isInquiry = true) : Takes job a jobs

theorem takes_of_heard (h : heard job a = some jobs) : Takes job a jobs := by
  cases job with
  | nextPids =>
    cases a with
    | pids list =>
      cases h
      exact .pids list
    | lost =>
      cases h
      exact .goOn rfl (by simp [Job.isRoutine])
    | _ => cases h
  | greet pid =>
    cases a with
    | greeted ok =>
      cases h
      cases ok
      · exact .shunned pid
      · exact .greeted pid
    | _ => cases h
  | describe pid =>
    cases a with
    | described name =>
      cases h
      exact .described pid name
    | _ => cases h
  | openStream | sleep | closeStream =>
    refine .goOn rfl fun j hj => ?_
    cases a <;> cases h <;> grind [Job.isRoutine]
  | askProperties | askMountPoint | askAvdName =>
    refine .answered rfl fun j hj => ?_
    cases a <;> cases h
    grind [Job.isInquiry]
  | _ => cases a <;> cases h

/-! ## The order is kept -/

theorem urgency_of_mem_releases {clients : List Client} {j : Job} (h : j ∈ Job.releases clients) :
    j.urgency = 2 := by
  obtain ⟨port, rfl⟩ := Client.eq_release_of_mem h
  rfl

theorem urgency_of_mem_asked {pids : List UInt32} {j : Job}
    (h : j ∈ pids.map (if m.jdwpHandshake then .greet else .describe)) : j.urgency = 1 := by
  obtain ⟨pid, -, rfl⟩ := List.mem_map.1 h
  split_ifs <;> rfl

theorem byUrgency_perform {rest : List Job} (ho : ByUrgency (job :: rest))
    (h : t.perform m g job = some w) : ByUrgency (w.jobs ++ rest) := by
  cases performs_of_perform h with
  | dismiss hjob =>
    have hle : job.urgency ≤ 2 := by
      rcases hjob with rfl | ⟨pids, rfl⟩
      · exact Nat.zero_le _
      · exact Nat.le_succ _
    exact ho.replace (.of_eq fun _ => urgency_of_mem_releases) fun j hj =>
      Nat.le_trans hle (Nat.le_of_eq (urgency_of_mem_releases hj).symm)
  | survey =>
    exact ho.replace (.of_eq fun _ => urgency_of_mem_asked) fun j hj =>
      Nat.le_of_eq (urgency_of_mem_asked hj).symm
  | release | enroll | keep => exact ho.replace List.Pairwise.nil nofun
  | allocate => exact ho.replace (List.pairwise_singleton _ _) (by simp [Job.urgency])
  | reject =>
    exact ho.replace (.of_eq fun _ => urgency_of_mem_releases) fun j hj =>
      Nat.le_of_eq (urgency_of_mem_releases hj).symm
  | goOn hjob hjobs =>
    exact ho.replace_idle (Job.urgency_of_isRoutine hjob) fun j hj =>
      Job.urgency_of_isRoutine (hjobs j hj)

theorem byUrgency_heard {rest : List Job} (ho : ByUrgency (job :: rest))
    (h : heard job a = some jobs) : ByUrgency (jobs ++ rest) := by
  cases takes_of_heard h with
  | pids => exact ho.replace (by simp [ByUrgency, Job.urgency]) fun _ _ => Nat.zero_le _
  | shunned => exact ho.replace List.Pairwise.nil nofun
  | greeted | described =>
    exact ho.replace (List.pairwise_singleton _ _) (by simp [Job.urgency])
  | goOn hjob hjobs =>
    exact ho.replace_idle (Job.urgency_of_isRoutine hjob) fun j hj =>
      Job.urgency_of_isRoutine (hjobs j hj)
  | answered hjob hjobs =>
    exact ho.replace_idle (Job.urgency_of_isInquiry hjob) fun j hj =>
      Job.urgency_of_isInquiry (hjobs j hj)

/-! ## The registry -/

theorem state?_perform (h : t.perform m g job = some w) (serial : String) :
    w.shared.registry.state? serial = g.registry.state? serial := by
  cases performs_of_perform h with
  | dismiss _ hu => exact hu ▸ Registry.state?_edit (Registry.state_clientsKept _)
  | enroll | reject => exact Registry.state?_edit (Registry.state_clientAdded _)
  | keep _ hu hstate => exact hu ▸ Registry.state?_edit hstate
  | survey | release | allocate | goOn => rfl

theorem isOnline_perform (h : t.perform m g job = some w) (serial : String) :
    w.shared.registry.isOnline serial = g.registry.isOnline serial := by
  rw [Registry.isOnline, state?_perform h, Registry.isOnline]

/-- Process numbers that are new are those of registered clients. -/
theorem mem_pids_perform (h : t.perform m g job = some w) {serial : String} {pid : UInt32}
    (hpid : pid ∈ w.shared.registry.pids serial) :
    pid ∈ g.registry.pids serial ∨
      ∃ c, job = .register c ∧ c.serial = serial ∧ c.pid = pid := by
  cases performs_of_perform h with
  | dismiss _ hu =>
    subst hu
    exact .inl (Registry.mem_pids_clientsKept hpid)
  | @enroll c | @reject c =>
    rcases Registry.mem_pids_addClient hpid with hpid | ⟨rfl, rfl⟩
    · exact .inl hpid
    · exact .inr ⟨c, rfl, rfl, rfl⟩
  | keep _ hu _ hclients =>
    subst hu
    rw [Registry.pids, Registry.clients_edit_of_clients hclients] at hpid
    exact .inl hpid
  | survey | release | allocate | goOn => exact .inl hpid

/-- A registry without devices stays so. -/
theorem perform_of_empty (hg : g.registry = .empty) (h : t.perform m g job = some w) :
    w.shared.registry = .empty := by
  cases performs_of_perform h with
  | dismiss _ hu | keep _ hu =>
    subst hu
    simp only [hg]
    rfl
  | enroll | reject =>
    simp only [hg]
    rfl
  | survey | release | allocate | goOn => exact hg

/-- A task registers clients of its own device. -/
theorem serial_of_perform (h : t.perform m g job = some w) {c : Client}
    (hc : .register c ∈ w.jobs) : c.serial = t.serial := by
  cases performs_of_perform h with
  | allocate pid description =>
    obtain ⟨rfl⟩ := Job.register.inj (List.mem_singleton.1 hc)
    rfl
  | dismiss | reject =>
    obtain ⟨port, hport⟩ := Client.eq_release_of_mem hc
    cases hport
  | survey => cases urgency_of_mem_asked hc
  | goOn _ hjobs => cases hjobs _ hc
  | release | enroll | keep => cases hc

theorem ne_register_of_heard (h : heard job a = some jobs) (c : Client) : .register c ∉ jobs := by
  intro hc
  cases takes_of_heard h with
  | goOn _ hjobs => cases hjobs _ hc
  | answered _ hjobs => cases hjobs _ hc
  | pids | greeted | shunned | described => simp at hc

/-! ## What no job changes -/

/-- The parts of a task that its jobs leave as they are. -/
def badge (t : Task) : String × Bool × Bool := (t.serial, t.isTracker, t.aborted)

end Task

namespace System

variable {s s' : System} {number : Nat} {t t' : Task}

theorem badges_set (ht : s.tasks[number]? = some t) (h : t'.badge = t.badge) :
    (s.tasks.set number t').map Task.badge = s.tasks.map Task.badge := by
  obtain ⟨hlt, rfl⟩ := List.getElem?_eq_some_iff.1 ht
  rw [List.map_set, h, ← List.getElem_map Task.badge (h := by simpa using hlt)]
  exact List.set_getElem_self _

/-! ## What the monitor does to the tasks -/

theorem urgency_of_mem_tasksFor {m : MonitorSettings} {serial : String}
    (h : t ∈ tasksFor m serial) {job : Job} (hjob : job ∈ t.agenda) : job.urgency = 0 := by
  rcases eq_of_mem_tasksFor h with rfl | rfl
  · rcases mem_setup hjob with rfl | ⟨name, rfl⟩ | ⟨port, rfl⟩ <;> rfl
  · obtain rfl := List.mem_singleton.1 hjob
    rfl

/-- Whoever is told to stop or to begin has nothing urgent to do by that. -/
theorem agendas_handle (s : System) (e : Event) :
    ∃ new : List (List Job), (∀ agenda ∈ new, ∀ job ∈ agenda, job.urgency = 0) ∧
      (s.handle e).1.tasks.map Task.agenda = s.tasks.map Task.agenda ++ new := by
  refine handle_induction (P := fun s' => ∃ new : List (List Job),
    (∀ agenda ∈ new, ∀ job ∈ agenda, job.urgency = 0) ∧
      s'.tasks.map Task.agenda = s.tasks.map Task.agenda ++ new) ?_ ?_ ?_ e
  · exact ⟨[], nofun, (List.append_nil _).symm⟩
  · intro serial _
    refine ⟨(tasksFor s.settings serial).map Task.agenda, fun agenda h job hjob => ?_,
      List.map_append⟩
    obtain ⟨t, ht, rfl⟩ := List.mem_map.1 h
    exact urgency_of_mem_tasksFor ht hjob
  · intro serial numbers _
    exact ⟨[], nofun, by rw [agendas_abort, List.append_nil]⟩

/-- The monitor gives the tasks that there are no other jobs. -/
theorem Works.agendas (h : Works s s') :
    ∃ new : List (List Job), (∀ agenda ∈ new, ∀ job ∈ agenda, job.urgency = 0) ∧
      s'.tasks.map Task.agenda = s.tasks.map Task.agenda ++ new := by
  cases h with
  | handle => exact agendas_handle s _
  | quit => exact ⟨[], by nofun, by rw [List.append_nil]; exact agendas_abort s _⟩
  | clearClients | release | applyList | clear | giveUp | retry | finish =>
    exact ⟨[], by nofun, (List.append_nil _).symm⟩

/-! ## What each task keeps by itself -/

/-- A task that the monitor leaves behind was there before, has perhaps been told to stop, or is
new. -/
theorem Works.mem_tasks (hw : Works s s') (ht : t ∈ s'.tasks) :
    (∃ old ∈ s.tasks, t = old ∨ t = { old with aborted := true }) ∨
      ∃ serial, t ∈ tasksFor s.settings serial := by
  have hsame : t ∈ s.tasks → ∃ old ∈ s.tasks, t = old ∨ t = { old with aborted := true } :=
    fun h => ⟨t, h, .inl rfl⟩
  have habort : ∀ numbers, t ∈ (s.abort numbers).tasks →
      ∃ old ∈ s.tasks, t = old ∨ t = { old with aborted := true } := by
    intro numbers h
    obtain ⟨⟨old, i⟩, hold, rfl⟩ := List.mem_map.1 h
    refine ⟨old, (List.mem_zipIdx' hold).2 ▸ List.getElem_mem _, ?_⟩
    simp only
    split_ifs
    · exact .inr rfl
    · exact .inl rfl
  cases hw with
  | @handle e =>
    revert ht
    refine handle_induction (P := fun s' => t ∈ s'.tasks →
      (∃ old ∈ s.tasks, t = old ∨ t = { old with aborted := true }) ∨
        ∃ serial, t ∈ tasksFor s.settings serial) ?_ ?_ ?_ e
    · exact fun ht => .inl (hsame ht)
    · intro serial _ ht
      exact (List.mem_append.1 ht).imp hsame fun h => ⟨serial, h⟩
    · exact fun serial numbers _ ht => .inl (habort numbers ht)
  | quit => exact .inl (habort _ ht)
  | clearClients | release | applyList | clear | giveUp | retry | finish => exact .inl (hsame ht)

/-- What holds of new tasks, and is kept by whatever happens to a single task in a move, holds of
all tasks after the move. -/
theorem forall_tasks_of_move {Q : Task → Prop} {m : Move}
    (hnew : ∀ serial, ∀ t ∈ tasksFor s.settings serial, Q t)
    (habort : ∀ t, Q t → Q { t with aborted := true })
    (hperform : ∀ t job rest w, t.agenda = job :: rest →
      t.perform s.settings s.shared job = some w → Q t →
        Q { t with failures := w.failures, agenda := w.jobs ++ rest })
    (hhear : ∀ number a t job rest jobs failures, m = .taskHear number a → t.agenda = job :: rest →
      Task.heard job a = some jobs → Q t → Q { t with failures, agenda := jobs ++ rest })
    (hend : ∀ t, Q t → Q { t with agenda := [] })
    (h : ∀ t ∈ s.tasks, Q t) (hm : s.move m = some s') : ∀ t ∈ s'.tasks, Q t := by
  intro t ht
  cases m with
  | work =>
    rcases (works_of_work hm).mem_tasks ht with ⟨old, hold, rfl | rfl⟩ | ⟨serial, hserial⟩
    · exact h t hold
    · exact habort old (h old hold)
    · exact hnew serial t hserial
  | hear a => exact h t ((hears_of_hear hm).tasks_eq ▸ ht)
  | taskWork number =>
    obtain ⟨old, job, rest, w, hold, hagenda, hw, rfl⟩ := taskWork_cases hm
    rcases List.mem_or_eq_of_mem_set ht with ht | rfl
    · exact h t ht
    · exact hperform old job rest w hagenda hw (h old (List.mem_of_getElem? hold))
  | taskHear number a =>
    obtain ⟨old, new, hold, -, ha, rfl⟩ := taskHear_cases hm
    rcases List.mem_or_eq_of_mem_set ht with ht | rfl
    · exact h t ht
    · obtain ⟨job, rest, jobs, failures, hagenda, hheard, rfl⟩ := hear_cases ha
      exact hhear number a old job rest jobs failures rfl hagenda hheard
        (h old (List.mem_of_getElem? hold))
  | taskEnd number =>
    obtain ⟨old, hold, -, rfl⟩ := taskEnd_cases hm
    rcases List.mem_or_eq_of_mem_set ht with ht | rfl
    · exact h t ht
    · exact hend old (h old (List.mem_of_getElem? hold))

end System

end DebugBridge
