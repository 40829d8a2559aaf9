import DebugBridge.Proofs.Monitor.Tasks
import DebugBridge.Proofs.PortPool
import Mathlib.Data.List.Nodup
import Mathlib.Data.List.Perm.Basic

/-!
# Every port that is held has one holder

The invariant is a balance (`Accounted`): each port of the pool that is held is with one registered
client, or in one hand, or lost once, and a port that is not held is nowhere. Each step moves ports
from one place to another. Where a job is dropped it has no port in hand: a task does something with
its ports before it waits (`ByUrgency`), and so does the monitor (`Orderly`).

Results:
* `Accounted.step`, `Accounted.steps`: the balance is kept, whatever is lost being counted.
* `steps_ports_exclusive`: no port is ever with two clients, and none that is with a client can be
  had from the pool.
-/

namespace DebugBridge

/-! ## Jobs with ports in hand -/

theorem Job.ports_eq_nil {job : Job} (h : job.urgency ≤ 1) : job.ports = [] := by
  cases job <;> first | rfl | exact absurd h (by simp [Job.urgency])

theorem ports_eq_nil_of_urgency {jobs : List Job} (h : ∀ j ∈ jobs, j.urgency ≤ 1) :
    jobs.flatMap Job.ports = [] :=
  List.flatMap_eq_nil_iff.2 fun j hj => Job.ports_eq_nil (h j hj)

/-- Jobs that give back the ports of clients have just these in hand. -/
theorem Client.flatMap_releases {α : Type} {release : UInt16 → α} {ports : α → List UInt16}
    (h : ∀ port, ports (release port) = [port]) (clients : List Client) :
    (clients.filterMap fun c => c.debuggerPort.map release).flatMap ports =
      Client.ports clients := by
  induction clients with
  | nil => rfl
  | cons c rest ih =>
    rw [Client.ports_cons, Client.ports_singleton, ← ih, List.filterMap_cons]
    cases c.debuggerPort with
    | none => rfl
    | some port => rw [Option.map_some, List.flatMap_cons, h, Option.toList_some]

theorem ports_releases (clients : List Client) :
    (Job.releases clients).flatMap Job.ports = Client.ports clients :=
  Client.flatMap_releases (fun _ => rfl) clients

theorem MonitorJob.ports_releases (clients : List Client) :
    (MonitorJob.releases clients).flatMap MonitorJob.ports = Client.ports clients :=
  Client.flatMap_releases (fun _ => rfl) clients

/-! ## Jobs of tasks -/

namespace Task

variable {m : MonitorSettings} {t t' : Task} {g : Shared} {job : Job} {w : Work}

theorem ports_eq (t : Task) : t.ports = t.agenda.flatMap Job.ports := rfl

/-- A task that waits has no port in hand. -/
theorem ports_of_waits (h : ByUrgency t.agenda) (hwaits : t.waits = true) : t.ports = [] := by
  unfold waits at hwaits
  rw [ports_eq]
  cases hagenda : t.agenda with
  | nil => rfl
  | cons job rest =>
    rw [hagenda] at h hwaits
    have hjob := Job.urgency_of_waits (by simpa using hwaits)
    exact ports_eq_nil_of_urgency fun j hj => Nat.le_trans (h.le hj) hjob

/-- An answer brings no port. -/
theorem ports_of_heard {a : Answer} {jobs : List Job} (h : heard job a = some jobs) :
    job.ports = [] ∧ jobs.flatMap Job.ports = [] := by
  cases takes_of_heard h with
  | pids | greeted | shunned | described => exact ⟨rfl, rfl⟩
  | goOn hjob hjobs =>
    exact ⟨Job.ports_eq_nil (Job.urgency_le_of_isRoutine hjob),
      ports_eq_nil_of_urgency fun j hj => Job.urgency_le_of_isRoutine (hjobs j hj)⟩
  | answered hjob hjobs =>
    exact ⟨Job.ports_eq_nil (Job.urgency_le_of_isInquiry hjob),
      ports_eq_nil_of_urgency fun j hj => Job.urgency_le_of_isInquiry (hjobs j hj)⟩

theorem sound_of_perform (hpool : g.ports.Sound) (h : t.perform m g job = some w) :
    w.shared.ports.Sound := by
  cases performs_of_perform h with
  | release port => exact hpool.release port
  | allocate => exact hpool.take
  | dismiss | survey | enroll | reject | goOn | keep => exact hpool

theorem displaced_of_urgency {reg : Registry} (h : job.urgency ≤ 1) : job.displaced reg = [] := by
  cases job <;> first | rfl | exact absurd h (by simp [Job.urgency])

/-- A job that is not urgent makes no client, and leaves the ports alone. -/
theorem count_of_urgency (h : job.urgency ≤ 1) (reg : Registry) (port : UInt16) :
    job.ports.count port = 0 ∧ (Client.ports (job.displaced reg)).count port = 0 := by
  rw [Job.ports_eq_nil h, displaced_of_urgency h]
  exact ⟨rfl, rfl⟩

/-- A job that does not wait moves ports, and makes none. -/
theorem count_perform (hpool : g.ports.Sound)
    (hheld : ∀ port ∈ job.ports, g.ports.isHeld port = true)
    (h : t.perform m g job = some w) (port : UInt16) :
    w.shared.registry.debuggerPorts.count port + (w.jobs.flatMap Job.ports).count port +
        (Client.ports (job.displaced g.registry)).count port + (g.ports.isHeld port).toNat =
      g.registry.debuggerPorts.count port + job.ports.count port +
        (w.shared.ports.isHeld port).toNat := by
  cases performs_of_perform h with
  | @dismiss _ p u hjob hu =>
    have hurgency : job.urgency ≤ 1 := by
      rcases hjob with rfl | ⟨pids, rfl⟩
      · exact Nat.zero_le _
      · exact Nat.le_refl _
    obtain ⟨hports, hdisplaced⟩ := count_of_urgency hurgency g.registry port
    have hkept : u.registry.debuggerPorts.count port +
        (Client.ports (u.result.getD [])).count port = g.registry.debuggerPorts.count port :=
      hu ▸ Registry.count_clientsKept port g.registry t.serial p
    rw [ports_releases, hports, hdisplaced]
    dsimp only
    omega
  | @survey pids unknown =>
    have hurgency : (Job.survey pids).urgency ≤ 1 := Nat.le_refl _
    obtain ⟨hports, hdisplaced⟩ := count_of_urgency hurgency g.registry port
    have hasked : ∀ j ∈ unknown.map (if m.jdwpHandshake then Job.greet else .describe),
        j.urgency ≤ 1 := fun j hj => Nat.le_of_eq (urgency_of_mem_asked hj)
    rw [ports_eq_nil_of_urgency hasked, hports, hdisplaced, List.count_nil]
  | release given =>
    have hgiven := PortPool.count_release (hheld given (List.mem_singleton.2 rfl)) port
    simp only [Job.ports, Job.displaced, Client.ports, List.filterMap_nil, List.flatMap_nil,
      List.count_nil]
    omega
  | allocate pid description =>
    have htaken := PortPool.count_take hpool port
    simp only [Job.ports, Job.displaced, List.flatMap_cons, List.flatMap_nil, List.append_nil,
      Client.ports_singleton, show Client.ports [] = [] from rfl, List.count_nil]
    omega
  | @enroll c hknown =>
    have hadded := Registry.count_addClient port g.registry c
    simp only [hknown, if_true, show Client.ports [] = [] from rfl, List.count_nil] at hadded
    simp only [Job.displaced, Job.ports, List.flatMap_nil, List.count_nil]
    omega
  | @reject c hknown =>
    have hadded := Registry.count_addClient port g.registry c
    simp only [hknown, Bool.false_eq_true, if_false] at hadded
    simp only [Job.displaced, Job.ports, ports_releases]
    omega
  | goOn hjob hjobs =>
    obtain ⟨hports, hdisplaced⟩ :=
      count_of_urgency (Job.urgency_le_of_isRoutine hjob) g.registry port
    have hnone := ports_eq_nil_of_urgency fun j hj => Job.urgency_le_of_isRoutine (hjobs j hj)
    rw [hnone, hports, hdisplaced, List.count_nil]
  | keep hjob hu _ hclients =>
    obtain ⟨hports, hdisplaced⟩ :=
      count_of_urgency (Job.urgency_le_of_isInquiry hjob) g.registry port
    subst hu
    rw [hports, hdisplaced, Registry.count_edit_of_clients port _ hclients]
    rfl

end Task

namespace System

variable {s s' : System} {lost : List UInt16}

/-! ## What the monitor's jobs have in hand -/

theorem ports_handle (s : System) (e : Event) :
    (s.handle e).2.flatMap MonitorJob.ports = e.ports := by
  cases e with
  | connected d => rfl
  | changed d what =>
    cases what with
    | state =>
      simp only [handle]
      split_ifs <;> rfl
    | clientList | buildInfo => rfl
  | disconnected d => exact MonitorJob.ports_releases d.clients

theorem ports_map_handle (events : List Event) :
    (events.map MonitorJob.handle).flatMap MonitorJob.ports = events.flatMap Event.ports := by
  rw [List.flatMap_map]
  rfl

theorem ports_lastReleases (events : List Event) :
    (lastReleases events).flatMap MonitorJob.ports = events.flatMap Event.ports := by
  rw [lastReleases, List.flatMap_assoc]
  congr 1
  funext e
  cases e with
  | disconnected d => exact MonitorJob.ports_releases d.clients
  | connected | changed => rfl

/-- A monitor that waits has no port in hand. -/
theorem ports_of_waits {job : MonitorJob} {rest : List MonitorJob} (ho : Orderly (job :: rest))
    (hwaits : job.waits = true) : (job :: rest).flatMap MonitorJob.ports = [] := by
  cases ho with
  | opening | following | sleeping => rfl
  | chore h => cases job <;> simp [MonitorJob.isChore, MonitorJob.waits] at h hwaits
  | listed | parting | failing | quitting | finishing => cases hwaits

/-! ## What the tasks have in hand -/

/-- Tasks that have the same jobs as before, or only wait, have the same ports in hand. -/
theorem ports_of_agendas {tasks tasks' : List Task} {new : List (List Job)}
    (hnew : ∀ agenda ∈ new, ∀ job ∈ agenda, job.urgency = 0)
    (h : tasks'.map Task.agenda = tasks.map Task.agenda ++ new) :
    tasks'.flatMap Task.ports = tasks.flatMap Task.ports := by
  have hall : ∀ l : List Task,
      l.flatMap Task.ports = (l.map Task.agenda).flatMap fun agenda => agenda.flatMap Job.ports :=
    fun l => by
      rw [List.flatMap_map]
      rfl
  have hnone : (new.flatMap fun agenda => agenda.flatMap Job.ports) = [] :=
    List.flatMap_eq_nil_iff.2 fun agenda hagenda =>
      ports_eq_nil_of_urgency fun job hjob => by
        rw [hnew agenda hagenda job hjob]
        exact Nat.zero_le _
  rw [hall, hall, h, List.flatMap_append, hnone, List.append_nil]

theorem ordered_of_agendas {tasks tasks' : List Task} {new : List (List Job)}
    (hnew : ∀ agenda ∈ new, ∀ job ∈ agenda, job.urgency = 0)
    (h : tasks'.map Task.agenda = tasks.map Task.agenda ++ new)
    (hold : ∀ t ∈ tasks, ByUrgency t.agenda) :
    ∀ t ∈ tasks', ByUrgency t.agenda := by
  intro t ht
  have hmem : t.agenda ∈ tasks.map Task.agenda ++ new := h ▸ List.mem_map_of_mem ht
  rcases List.mem_append.1 hmem with hmem | hmem
  · obtain ⟨t', ht', heq⟩ := List.mem_map.1 hmem
    exact heq ▸ hold t' ht'
  · exact .of_eq (hnew _ hmem)

theorem count_ports_set {tasks : List Task} {number : Nat} {t : Task}
    (h : tasks[number]? = some t) (t' : Task) (port : UInt16) :
    ((tasks.set number t').flatMap Task.ports).count port + t.ports.count port =
      (tasks.flatMap Task.ports).count port + t'.ports.count port := by
  obtain ⟨hlt, rfl⟩ := List.getElem?_eq_some_iff.1 h
  have hset := (List.set_perm_cons_eraseIdx hlt t').flatMap_right Task.ports
  have hold := (List.getElem_cons_eraseIdx_perm hlt).flatMap_right Task.ports
  rw [hset.count_eq, ← hold.count_eq, List.flatMap_cons, List.flatMap_cons, List.count_append,
    List.count_append]
  omega

/-! ## The balance -/

/-- Every port that is held is in exactly one place, and a port that is not held is in none. -/
structure Accounted (s : System) (lost : List UInt16) : Prop where
  sound : s.shared.ports.Sound
  orderly : Orderly s.agenda
  ordered : ∀ t ∈ s.tasks, ByUrgency t.agenda
  balance : ∀ port,
    s.shared.registry.debuggerPorts.count port + s.inHand.count port + lost.count port =
      (s.shared.ports.isHeld port).toNat

theorem Accounted.start (m : MonitorSettings) : Accounted (start m) [] where
  sound := .new _
  orderly := .opening
  ordered := nofun
  balance port := by simp [System.start, inHand, MonitorJob.ports]

/-- Where a port is in hand. -/
theorem count_inHand (s : System) (port : UInt16) :
    s.inHand.count port = (s.agenda.flatMap MonitorJob.ports).count port +
      (s.tasks.flatMap Task.ports).count port :=
  List.count_append

/-- What is in hand is held. -/
theorem Accounted.isHeld (h : Accounted s lost) {port : UInt16} (hport : port ∈ s.inHand) :
    s.shared.ports.isHeld port = true := by
  have hbalance := h.balance port
  have hpos := List.count_pos_iff.2 hport
  by_contra hheld
  rw [Bool.not_eq_true] at hheld
  rw [hheld, Bool.toNat_false] at hbalance
  omega

/-! ## Steps of the monitor -/

/-- A job of the monitor moves ports, and makes none. -/
theorem Works.count_ports (hw : Works s s')
    (hheld : ∀ port ∈ s.agenda.flatMap MonitorJob.ports, s.shared.ports.isHeld port = true)
    (port : UInt16) :
    s'.shared.registry.debuggerPorts.count port +
        (s'.agenda.flatMap MonitorJob.ports).count port + (s.shared.ports.isHeld port).toNat =
      s.shared.registry.debuggerPorts.count port +
        (s.agenda.flatMap MonitorJob.ports).count port + (s'.shared.ports.isHeld port).toNat := by
  cases hw with
  | handle hagenda =>
    rw [hagenda]
    simp only [shared_handle, List.flatMap_append, ports_handle, List.flatMap_cons,
      MonitorJob.ports]
  | @clearClients serial rest hagenda =>
    have hclear := Registry.count_clientsKept port s.shared.registry serial fun _ => false
    rw [hagenda]
    simp only [publish, Registry.clearClients, List.flatMap_append, List.flatMap_cons,
      MonitorJob.ports_releases, MonitorJob.ports, List.count_append, List.count_nil] at hclear ⊢
    omega
  | @release given rest hagenda =>
    rw [hagenda] at hheld ⊢
    have hgiven : s.shared.ports.isHeld given = true :=
      hheld given (List.mem_append_left _ (List.mem_singleton.2 rfl))
    have hcount := PortPool.count_release hgiven port
    simp only [List.flatMap_cons, MonitorJob.ports, List.count_append]
    omega
  | @applyList list rest hagenda =>
    have hlist := Registry.count_applyList port s.shared.registry list
    rw [hagenda]
    simp only [publish, List.flatMap_append, List.flatMap_cons, ports_map_handle,
      MonitorJob.ports, List.count_append, List.count_nil] at hlist ⊢
    omega
  | clear hagenda =>
    rw [hagenda]
    simp only [publish, List.flatMap_append, List.flatMap_cons, ports_map_handle,
      Registry.ports_clear, Registry.registry_clear, Registry.debuggerPorts_empty,
      MonitorJob.ports, List.count_append, List.count_nil]
    omega
  | quit hagenda =>
    rw [hagenda]
    simp only [publish, List.flatMap_append, List.flatMap_cons, List.flatMap_nil,
      ports_lastReleases, Registry.ports_clear, Registry.registry_clear,
      Registry.debuggerPorts_empty, MonitorJob.ports, List.count_append, List.count_nil, abort]
    omega
  | giveUp hagenda | retry hagenda | finish hagenda =>
    rw [hagenda]
    rfl

theorem Works.sound (hw : Works s s') (h : s.shared.ports.Sound) : s'.shared.ports.Sound := by
  cases hw with
  | handle => rwa [shared_handle]
  | @release given => exact h.release given
  | clearClients | applyList | clear | giveUp | retry | quit | finish => exact h

theorem Accounted.works (h : Accounted s lost) (hw : Works s s') : Accounted s' lost := by
  obtain ⟨new, hnew, htasks⟩ := hw.agendas
  refine ⟨hw.sound h.sound, hw.orderly h.orderly, ordered_of_agendas hnew htasks h.ordered,
    fun port => ?_⟩
  have hheld : ∀ port ∈ s.agenda.flatMap MonitorJob.ports, s.shared.ports.isHeld port = true :=
    fun port hport => h.isHeld (List.mem_append_left _ hport)
  have hcount := hw.count_ports hheld port
  have hbalance := h.balance port
  rw [count_inHand] at hbalance ⊢
  rw [ports_of_agendas hnew htasks]
  omega

theorem Accounted.hears (h : Accounted s lost) {a : Signal} (hh : Hears s a s') :
    Accounted s' lost := by
  have hagenda : s'.agenda.flatMap MonitorJob.ports = s.agenda.flatMap MonitorJob.ports := by
    have horderly := h.orderly
    cases hh with
    | shutdown hagenda hwaits =>
      rw [hagenda] at horderly ⊢
      exact (ports_of_waits horderly hwaits).symm
    | accepted hagenda | refused hagenda | list hagenda | lost hagenda | woke hagenda =>
      rw [hagenda]
      rfl
  refine ⟨hh.shared_eq ▸ h.sound, hh.orderly h.orderly, hh.tasks_eq ▸ h.ordered, fun port => ?_⟩
  have hbalance := h.balance port
  rw [count_inHand] at hbalance ⊢
  rwa [hagenda, hh.tasks_eq, hh.shared_eq]

/-! ## Steps of the tasks -/

theorem lostBy_taskWork {number : Nat} {t : Task} {job : Job} {rest : List Job}
    (ht : s.tasks[number]? = some t) (hagenda : t.agenda = job :: rest) :
    s.lostBy (.move (.taskWork number)) = Client.ports (job.displaced s.shared.registry) := by
  simp [lostBy, displaced, ht, hagenda]

theorem Accounted.taskWork (h : Accounted s lost) {number : Nat}
    (hs : s.taskWork number = some s') :
    Accounted s' (lost ++ s.lostBy (.move (.taskWork number))) := by
  obtain ⟨t, job, rest, w, ht, hagenda, hw, rfl⟩ := taskWork_cases hs
  have hmem : t ∈ s.tasks := List.mem_of_getElem? ht
  have hports : t.ports = job.ports ++ rest.flatMap Job.ports := by
    rw [Task.ports, hagenda, List.flatMap_cons]
  -- What the job has in hand is held: else the job could give back a port that is not its own.
  have hheld : ∀ port ∈ job.ports, s.shared.ports.isHeld port = true := fun port hport =>
    h.isHeld (List.mem_append_right _
      (List.mem_flatMap.2 ⟨t, hmem, hports ▸ List.mem_append_left _ hport⟩))
  refine ⟨Task.sound_of_perform h.sound hw, h.orderly, fun t' ht' => ?_, fun port => ?_⟩
  · rcases List.mem_or_eq_of_mem_set ht' with ht' | rfl
    · exact h.ordered t' ht'
    · exact Task.byUrgency_perform (hagenda ▸ h.ordered t hmem) hw
  · have hbalance := h.balance port
    have hmoved := Task.count_perform h.sound hheld hw port
    have hset := count_ports_set ht { t with failures := w.failures, agenda := w.jobs ++ rest } port
    rw [count_inHand] at hbalance ⊢
    rw [hports, Task.ports_eq, List.flatMap_append] at hset
    rw [lostBy_taskWork ht hagenda]
    simp only [List.count_append] at hset ⊢
    omega

/-- A task may get other jobs if it has the same ports in hand. -/
theorem Accounted.set (h : Accounted s lost) {number : Nat} {t t' : Task}
    (ht : s.tasks[number]? = some t) (hordered : ByUrgency t'.agenda)
    (hports : t'.ports = t.ports) :
    Accounted { s with tasks := s.tasks.set number t' } lost := by
  refine ⟨h.sound, h.orderly, fun t'' ht'' => ?_, fun port => ?_⟩
  · rcases List.mem_or_eq_of_mem_set ht'' with ht'' | rfl
    · exact h.ordered t'' ht''
    · exact hordered
  · have hbalance := h.balance port
    have hset := count_ports_set ht t' port
    rw [count_inHand] at hbalance ⊢
    rw [hports] at hset
    simp only
    omega

theorem Accounted.hear (h : Accounted s lost) {number : Nat} {t t' : Task} {a : Answer}
    (ht : s.tasks[number]? = some t) (ha : t.hear a = some t') :
    Accounted { s with tasks := s.tasks.set number t' } lost := by
  obtain ⟨job, rest, jobs, failures, hagenda, hheard, rfl⟩ := hear_cases ha
  obtain ⟨hjob, hjobs⟩ := Task.ports_of_heard hheard
  have hordered : ByUrgency (job :: rest) := hagenda ▸ h.ordered t (List.mem_of_getElem? ht)
  refine h.set ht (Task.byUrgency_heard hordered hheard) ?_
  simp only [Task.ports, hagenda, List.flatMap_append, List.flatMap_cons, hjob, hjobs]

/-- A task that ends at its wait has no port in hand. -/
theorem Accounted.drop (h : Accounted s lost) {number : Nat} {t : Task}
    (ht : s.tasks[number]? = some t) (hwaits : t.waits = true) :
    Accounted { s with tasks := s.tasks.set number { t with agenda := [] } } lost := by
  refine h.set ht List.Pairwise.nil ?_
  rw [Task.ports_of_waits (h.ordered t (List.mem_of_getElem? ht)) hwaits]
  rfl

/-- Every step keeps the balance, if what it loses is counted. -/
theorem Accounted.step (h : Accounted s lost) {step : Step} (hs : s.step step = some s') :
    Accounted s' (lost ++ s.lostBy step) := by
  -- Only the work of a task can lose a port.
  have hnone : Accounted s' lost → s.lostBy step = [] → Accounted s' (lost ++ s.lostBy step) :=
    fun h hlost => by rwa [hlost, List.append_nil]
  cases step with
  | move m =>
    cases m with
    | work => exact hnone (h.works (works_of_work hs)) rfl
    | hear a => exact hnone (h.hears (hears_of_hear hs)) rfl
    | taskWork number => exact h.taskWork hs
    | taskHear number a =>
      obtain ⟨t, t', ht, -, ha, rfl⟩ := taskHear_cases hs
      exact hnone (h.hear ht ha) rfl
    | taskEnd number =>
      obtain ⟨t, ht, hwaits, rfl⟩ := taskEnd_cases hs
      exact hnone (h.drop ht hwaits) rfl
  | track serial =>
    cases hs
    have hnew : ∀ agenda ∈ [[Job.openStream]], ∀ job ∈ agenda, job.urgency = 0 := by
      simp [Job.urgency]
    have htasks : (s.tasks ++ [Task.tracker serial]).map Task.agenda =
        s.tasks.map Task.agenda ++ [[Job.openStream]] := List.map_append
    refine hnone ⟨h.sound, h.orderly, ordered_of_agendas hnew htasks h.ordered, fun port => ?_⟩ rfl
    have hbalance := h.balance port
    rw [count_inHand] at hbalance ⊢
    rwa [ports_of_agendas hnew htasks]
  | goOn number a =>
    obtain ⟨t, ht, hs⟩ := Option.bind_eq_some_iff.1 hs
    obtain ⟨t', ha, hs⟩ := Option.bind_eq_some_iff.1 hs
    cases hs
    exact hnone (h.hear ht ha) rfl
  | drop number =>
    obtain ⟨t, ht, hs⟩ := Option.bind_eq_some_iff.1 hs
    split_ifs at hs with hwaits
    cases hs
    exact hnone (h.drop ht hwaits) rfl

theorem steps_cons (step : Step) (l : List Step) :
    s.steps (step :: l) = (s.step step).bind fun s => s.steps l := rfl

theorem Accounted.steps (h : Accounted s lost) {l : List Step} (hs : s.steps l = some s') :
    Accounted s' (lost ++ s.lost l) := by
  induction l generalizing s lost with
  | nil =>
    cases hs
    rwa [System.lost, List.append_nil]
  | cons step l ih =>
    obtain ⟨s₁, hstep, hs⟩ := Option.bind_eq_some_iff.1 hs
    have := ih (h.step hstep) hs
    rw [System.lost, hstep]
    rwa [List.append_assoc] at this

/-! ## No port is with two clients -/

/-- **Main theorem.** However the steps of a monitor and of any number of trackers follow upon one
another, and wherever trackers end, no debugger port is with two registered clients. All ports of
registered clients are held by the pool, so none of them is the next to be handed out. -/
theorem steps_ports_exclusive (m : MonitorSettings) {l : List Step}
    (h : (start m).steps l = some s) :
    s.shared.registry.debuggerPorts.Nodup ∧
      (∀ port ∈ s.shared.registry.debuggerPorts, port ∈ s.shared.ports.held) ∧
      ∀ port pool, s.shared.ports.take = (some port, pool) →
        port ∉ s.shared.registry.debuggerPorts := by
  have haccounted := (Accounted.start m).steps h
  have hle : ∀ port, s.shared.registry.debuggerPorts.count port ≤
      (s.shared.ports.isHeld port).toNat := fun port => by
    have := haccounted.balance port
    omega
  have hheld : ∀ port ∈ s.shared.registry.debuggerPorts, s.shared.ports.isHeld port = true := by
    intro port hport
    have hpos := List.count_pos_iff.2 hport
    have := hle port
    by_contra hnot
    rw [Bool.not_eq_true] at hnot
    rw [hnot, Bool.toNat_false] at this
    omega
  refine ⟨List.nodup_iff_count_le_one.2 fun port => ?_, fun port hport => ?_, ?_⟩
  · exact Nat.le_trans (hle port) (Bool.toNat_le _)
  · exact (PortPool.mem_held haccounted.sound).2 (hheld port hport)
  · intro port pool htake hport
    have hfree := (PortPool.isHeld_of_take haccounted.sound htake).1
    rw [hheld port hport] at hfree
    cases hfree

/-- Two devices come online, and each of their trackers hears of a process. One takes its port
before the other, and registers its client after it. The second device gets one more tracker, and
its first one ends at its wait. -/
def twoTrackers : List Step :=
  [.move (.hear .accepted), .move (.hear (.list [⟨"a", .online⟩, ⟨"b", .online⟩])), .move .work,
    .move .work, .move .work, .goOn 0 .accepted, .goOn 1 .accepted, .goOn 0 (.pids [7]),
    .goOn 1 (.pids [7]), .move (.taskWork 0), .move (.taskWork 1), .move (.taskWork 0),
    .move (.taskWork 1), .goOn 0 (.described none), .goOn 1 (.described none), .move (.taskWork 0),
    .move (.taskWork 1), .move (.taskWork 1), .move (.taskWork 0), .move (.taskWork 1), .track "b",
    .drop 1]

theorem ports_exclusive_twoTrackers :
    ∃ s, (start clientsOnly).steps twoTrackers = some s ∧
      s.shared.registry.debuggerPorts = [8600, 8601] ∧
      s.shared.registry.debuggerPorts.Nodup ∧
      (∀ port ∈ s.shared.registry.debuggerPorts, port ∈ s.shared.ports.held) ∧
      ∀ port pool, s.shared.ports.take = (some port, pool) →
        port ∉ s.shared.registry.debuggerPorts := by
  have hports : ((start clientsOnly).steps twoTrackers).map (·.shared.registry.debuggerPorts) =
      some [8600, 8601] := by decide +kernel
  obtain ⟨s, hs, hports⟩ := Option.map_eq_some_iff.1 hports
  exact ⟨s, hs, hports, steps_ports_exclusive clientsOnly hs⟩

end System

end DebugBridge
