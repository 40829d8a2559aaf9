import DebugBridge.Proofs.Monitor.Resting

/-!
# A tracker registers no process twice

A tracker that hears of processes deals with all of them before it hears of others. The processes
that it has in mind are distinct if those of each list are (`Planned`), and those of which it is to
make clients have none yet (`Fresh`): there is no other tracker for the device, so no one else
registers its clients.

Result: `Exact.displaced_eq_nil`, no client takes the place of another.
-/

namespace DebugBridge

/-! ## The processes that a task has in mind -/

/-- The processes of which a job is to make clients, by itself or by what follows from it. -/
def Job.recruits : Job → List UInt32
  | .greet pid | .describe pid | .allocate pid _ => [pid]
  | .register c => [c.pid]
  | _ => []

/-- The processes that a job has in mind: those of which it is to make clients, and those of a list
of which some may be known. -/
def Job.plan : Job → List UInt32
  | .survey pids => pids
  | job => job.recruits

theorem Job.recruits_subset_plan (job : Job) : job.recruits ⊆ job.plan := by
  cases job <;> simp [recruits, plan]

theorem Job.plan_eq_nil {job : Job} (h : job.urgency = 0) : job.plan = [] := by
  cases job <;> first | rfl | cases h

theorem plan_eq_nil_of_urgency {jobs : List Job} (h : ∀ j ∈ jobs, j.urgency = 0) :
    jobs.flatMap Job.plan = [] :=
  List.flatMap_eq_nil_iff.2 fun j hj => Job.plan_eq_nil (h j hj)

theorem plan_eq_nil_of_isRoutine {jobs : List Job} (h : ∀ j ∈ jobs, j.isRoutine = true) :
    jobs.flatMap Job.plan = [] :=
  plan_eq_nil_of_urgency fun j hj => Job.urgency_of_isRoutine (h j hj)

theorem plan_eq_nil_of_isInquiry {jobs : List Job} (h : ∀ j ∈ jobs, j.isInquiry = true) :
    jobs.flatMap Job.plan = [] :=
  plan_eq_nil_of_urgency fun j hj => Job.urgency_of_isInquiry (h j hj)

theorem flatMap_recruits_subset (jobs : List Job) :
    jobs.flatMap Job.recruits ⊆ jobs.flatMap Job.plan := by
  intro pid hpid
  obtain ⟨job, hjob, hpid⟩ := List.mem_flatMap.1 hpid
  exact List.mem_flatMap.2 ⟨job, hjob, job.recruits_subset_plan hpid⟩

theorem plan_releases (clients : List Client) : (Job.releases clients).flatMap Job.plan = [] := by
  refine List.flatMap_eq_nil_iff.2 fun job hjob => ?_
  obtain ⟨port, rfl⟩ := Client.eq_release_of_mem hjob
  rfl

theorem plan_asked (m : MonitorSettings) (pids : List UInt32) :
    (pids.map (if m.jdwpHandshake then Job.greet else .describe)).flatMap Job.plan = pids := by
  split_ifs <;> simp [List.flatMap_map, Job.plan, Job.recruits]

namespace Task

variable {m : MonitorSettings} {t : Task} {g : Shared} {job : Job} {w : Work} {a : Answer}
  {jobs rest : List Job}

/-- A job leaves no processes in mind but those that it has in mind itself. -/
theorem plan_of_perform (h : t.perform m g job = some w) :
    (w.jobs.flatMap Job.plan).Sublist job.plan := by
  cases performs_of_perform h with
  | dismiss | reject =>
    rw [plan_releases]
    exact List.nil_sublist _
  | survey hunknown =>
    subst hunknown
    rw [plan_asked]
    exact List.filter_sublist
  | allocate => exact List.Sublist.refl _
  | goOn _ hjobs =>
    rw [plan_eq_nil_of_isRoutine hjobs]
    exact List.nil_sublist _
  | release | enroll | keep => exact List.nil_sublist _

/-- An answer leaves no processes in mind but those of the job, unless it is a list of them. -/
theorem plan_of_heard (h : heard job a = some jobs) :
    (jobs.flatMap Job.plan).Sublist job.plan ∨
      ∃ list, a = .pids list ∧ job = .nextPids ∧ jobs.flatMap Job.plan = list := by
  cases takes_of_heard h with
  | pids list => exact .inr ⟨list, rfl, rfl, by simp [Job.plan, Job.recruits]⟩
  | greeted | described => exact .inl (List.Sublist.refl _)
  | shunned => exact .inl (List.nil_sublist _)
  | goOn _ hjobs =>
    rw [plan_eq_nil_of_isRoutine hjobs]
    exact .inl (List.nil_sublist _)
  | answered _ hjobs =>
    rw [plan_eq_nil_of_isInquiry hjobs]
    exact .inl (List.nil_sublist _)

theorem isInquiry_eq_false (h : job.isRoutine = true) : job.isInquiry = false := by
  cases job <;> first | rfl | cases h

theorem isInquiry_of_perform (h : t.perform m g job = some w) (hjob : job.isInquiry = true) :
    ∀ j ∈ w.jobs, j.isInquiry = true := by
  cases performs_of_perform h with
  | keep => exact nofun
  | goOn hroutine =>
    rw [isInquiry_eq_false hroutine] at hjob
    cases hjob
  | dismiss hdismiss => rcases hdismiss with rfl | ⟨pids, rfl⟩ <;> cases hjob
  | survey | release | allocate | enroll | reject => cases hjob

theorem isInquiry_of_heard (h : heard job a = some jobs) (hjob : job.isInquiry = true) :
    ∀ j ∈ jobs, j.isInquiry = true := by
  cases takes_of_heard h with
  | answered _ hjobs => exact hjobs
  | goOn hroutine =>
    rw [isInquiry_eq_false hroutine] at hjob
    cases hjob
  | pids | greeted | shunned | described => cases hjob

/-- What a job is to make clients of, by what follows from it, it was to make clients of before, or
has just found to have none. -/
theorem recruits_of_perform (h : t.perform m g job = some w) {pid : UInt32}
    (hpid : pid ∈ w.jobs.flatMap Job.recruits) :
    w.shared.registry = g.registry ∧ (pid ∈ job.recruits ∨ pid ∉ g.registry.pids t.serial) := by
  have hplan := flatMap_recruits_subset _ hpid
  cases performs_of_perform h with
  | dismiss | reject =>
    rw [plan_releases] at hplan
    cases hplan
  | survey hunknown =>
    subst hunknown
    rw [plan_asked] at hplan
    exact ⟨rfl, .inr (by simpa using (List.mem_filter.1 hplan).2)⟩
  | allocate => exact ⟨rfl, .inl hpid⟩
  | goOn _ hjobs =>
    rw [plan_eq_nil_of_isRoutine hjobs] at hplan
    cases hplan
  | release | enroll | keep => cases hplan

theorem recruits_of_heard (h : heard job a = some jobs) :
    jobs.flatMap Job.recruits ⊆ job.recruits := by
  intro pid hpid
  cases takes_of_heard h with
  | pids | shunned => cases hpid
  | greeted | described => exact hpid
  | goOn _ hjobs =>
    have hplan := flatMap_recruits_subset _ hpid
    rw [plan_eq_nil_of_isRoutine hjobs] at hplan
    cases hplan
  | answered _ hjobs =>
    have hplan := flatMap_recruits_subset _ hpid
    rw [plan_eq_nil_of_isInquiry hjobs] at hplan
    cases hplan

/-- A task does what is urgent first, has distinct processes in mind, and if it is no tracker it has
but questions to ask. -/
structure Planned (t : Task) : Prop where
  ordered : ByUrgency t.agenda
  distinct : (t.agenda.flatMap Job.plan).Nodup
  inquires : t.isTracker = false → ∀ job ∈ t.agenda, job.isInquiry = true

/-- Only a tracker makes clients. -/
theorem Planned.isTracker (h : Planned t) {pid : UInt32}
    (hpid : pid ∈ t.agenda.flatMap Job.recruits) : t.isTracker = true := by
  obtain ⟨job, hjob, hpid⟩ := List.mem_flatMap.1 hpid
  cases htracker : t.isTracker with
  | true => rfl
  | false =>
    have := h.inquires htracker job hjob
    cases job <;> first | cases hpid; done | cases this

theorem Planned.nil (t : Task) : Planned { t with agenda := [] } :=
  ⟨List.Pairwise.nil, List.Pairwise.nil, fun _ => nofun⟩

theorem Planned.of_mem_tasksFor {serial : String} (h : t ∈ System.tasksFor m serial) :
    Planned t := by
  have hurgency : ∀ job ∈ t.agenda, job.urgency = 0 := fun _ => System.urgency_of_mem_tasksFor h
  refine ⟨.of_eq hurgency, ?_, fun htracker job hjob => ?_⟩
  · rw [plan_eq_nil_of_urgency hurgency]
    exact List.Pairwise.nil
  · rcases System.eq_of_mem_tasksFor h with rfl | rfl
    · rcases System.mem_setup hjob with rfl | ⟨name, rfl⟩ | ⟨port, rfl⟩ <;> rfl
    · cases htracker

theorem Planned.perform (h : Planned t) (hagenda : t.agenda = job :: rest)
    (hw : t.perform m g job = some w) :
    Planned { t with failures := w.failures, agenda := w.jobs ++ rest } := by
  obtain ⟨hordered, hdistinct, hinquires⟩ := h
  rw [hagenda] at hordered hdistinct hinquires
  refine ⟨byUrgency_perform hordered hw, ?_, fun htracker j hj => ?_⟩
  · rw [List.flatMap_cons] at hdistinct
    rw [List.flatMap_append]
    exact ((plan_of_perform hw).append (List.Sublist.refl _)).nodup hdistinct
  · have hjob := hinquires htracker job List.mem_cons_self
    rcases List.mem_append.1 hj with hj | hj
    · exact isInquiry_of_perform hw hjob j hj
    · exact hinquires htracker j (List.mem_cons_of_mem _ hj)

theorem Planned.hear (h : Planned t) (hagenda : t.agenda = job :: rest)
    (hheard : heard job a = some jobs) (hlist : ∀ list, a = .pids list → list.Nodup)
    (failures : Nat) : Planned { t with failures, agenda := jobs ++ rest } := by
  obtain ⟨hordered, hdistinct, hinquires⟩ := h
  rw [hagenda] at hordered hdistinct hinquires
  refine ⟨byUrgency_heard hordered hheard, ?_, fun htracker j hj => ?_⟩
  · rw [List.flatMap_append]
    rcases plan_of_heard hheard with hplan | ⟨list, rfl, rfl, hplan⟩
    · exact (hplan.append (List.Sublist.refl _)).nodup hdistinct
    · have hrest : rest.flatMap Job.plan = [] := plan_eq_nil_of_urgency fun j hj =>
        Nat.le_zero.1 (hordered.le (List.mem_cons_of_mem _ hj))
      rw [hplan, hrest, List.append_nil]
      exact hlist list rfl
  · have hjob := hinquires htracker job List.mem_cons_self
    rcases List.mem_append.1 hj with hj | hj
    · exact isInquiry_of_heard hheard hjob j hj
    · exact hinquires htracker j (List.mem_cons_of_mem _ hj)

end Task

namespace System

variable {s s' : System}

/-! ## The registry knows none of them -/

/-- A task that has not been told to stop is to make clients of unknown processes only. -/
def Fresh (s : System) : Prop :=
  ∀ t ∈ s.tasks, t.aborted = false → ∀ pid ∈ t.agenda.flatMap Job.recruits,
    pid ∉ s.shared.registry.pids t.serial

/-- The monitor brings no clients. -/
theorem mem_pids_works (hw : Works s s') {serial : String} {pid : UInt32}
    (h : pid ∈ s'.shared.registry.pids serial) : pid ∈ s.shared.registry.pids serial := by
  cases hw with
  | handle => rwa [shared_handle] at h
  | clearClients => exact Registry.mem_pids_clientsKept h
  | @applyList list =>
    have hpids : pid ∈ ((s.shared.registry.applyList list).registry.clients serial).map (·.pid) := h
    rcases Registry.clients_applyList s.shared.registry list serial with hclients | hclients
    · rwa [hclients] at hpids
    · rw [hclients] at hpids
      cases hpids
  | clear | quit => cases h
  | release | giveUp | retry | finish => exact h

theorem Fresh.works (h : Fresh s) (hw : Works s s') : Fresh s' := by
  intro t ht hlive pid hpid hknown
  have hknown := mem_pids_works hw hknown
  rcases hw.mem_tasks ht with ⟨old, hold, rfl | rfl⟩ | ⟨serial, hnew⟩
  · exact h t hold hlive pid hpid hknown
  · cases hlive
  · have hplan := flatMap_recruits_subset _ hpid
    rw [plan_eq_nil_of_urgency fun _ => urgency_of_mem_tasksFor hnew] at hplan
    cases hplan

section TaskWork

variable {t t' : Task} {job : Job} {rest : List Job} {w : Task.Work} {pid : UInt32}

/-- The task that works has just asked the registry, or had the process in mind before, and had none
in mind twice. -/
theorem Fresh.not_mem_of_worker (h : Fresh s) (ht : t ∈ s.tasks) (hlive : t.aborted = false)
    (hplanned : t.Planned) (hagenda : t.agenda = job :: rest)
    (hw : t.perform s.settings s.shared job = some w)
    (hpid : pid ∈ (w.jobs ++ rest).flatMap Job.recruits) :
    pid ∉ w.shared.registry.pids t.serial := by
  intro hknown
  have hold := h t ht hlive
  rw [hagenda, List.flatMap_cons] at hold
  rw [List.flatMap_append] at hpid
  rcases List.mem_append.1 hpid with hpid | hpid
  · obtain ⟨hregistry, hnew⟩ := Task.recruits_of_perform hw hpid
    rw [hregistry] at hknown
    rcases hnew with hnew | hnew
    · exact hold pid (List.mem_append_left _ hnew) hknown
    · exact hnew hknown
  · rcases Task.mem_pids_perform hw hknown with hknown | ⟨c, rfl, -, rfl⟩
    · exact hold pid (List.mem_append_right _ hpid) hknown
    · have hdistinct := hplanned.distinct
      rw [hagenda, List.flatMap_cons] at hdistinct
      exact (List.nodup_cons.1 hdistinct).1 (flatMap_recruits_subset _ hpid)

/-- A client that is registered for the device of another task would come from a second tracker. -/
theorem Fresh.not_mem_of_other (h : Fresh s) (htidy : Tidy s)
    (hplanned : ∀ t ∈ s.tasks, t.Planned) {i j : Nat} (hne : i ≠ j) (hi : s.tasks[i]? = some t)
    (hj : s.tasks[j]? = some t') (hlive : t.aborted = false) (hlive' : t'.aborted = false)
    (hagenda : t.agenda = job :: rest) (hw : t.perform s.settings s.shared job = some w)
    (hpid : pid ∈ t'.agenda.flatMap Job.recruits) : pid ∉ w.shared.registry.pids t'.serial := by
  have ht := List.mem_of_getElem? hi
  have ht' := List.mem_of_getElem? hj
  intro hknown
  rcases Task.mem_pids_perform hw hknown with hknown | ⟨c, rfl, hserial, rfl⟩
  · exact h t' ht' hlive' pid hpid hknown
  · have hregister : Job.register c ∈ t.agenda := hagenda ▸ List.mem_cons_self
    have hrecruits : c.pid ∈ t.agenda.flatMap Job.recruits :=
      List.mem_flatMap.2 ⟨_, hregister, List.mem_singleton.2 rfl⟩
    have hsame : t.serial = t'.serial := (htidy.registers t ht c hregister).symm.trans hserial
    exact hne (htidy.assigned.eq_of_serial_eq hi hj ((hplanned t ht).isTracker hrecruits)
      ((hplanned t' ht').isTracker hpid) hlive hlive' hsame)

theorem Fresh.taskWork (h : Fresh s) (htidy : Tidy s) (hplanned : ∀ t ∈ s.tasks, t.Planned)
    {number : Nat} (ht : s.tasks[number]? = some t) (hlive : t.aborted = false)
    (hagenda : t.agenda = job :: rest) (hw : t.perform s.settings s.shared job = some w) :
    Fresh { s with
      shared := w.shared
      tasks := s.tasks.set number { t with failures := w.failures, agenda := w.jobs ++ rest }
      events := s.events ++ w.events } := by
  have hmem := List.mem_of_getElem? ht
  intro t' ht' hlive' pid hpid
  obtain ⟨i, hi⟩ := List.mem_iff_getElem?.1 ht'
  simp only [List.getElem?_set] at hi
  split_ifs at hi with hnumber hlt
  · obtain rfl := Option.some.inj hi
    have hnot := h.not_mem_of_worker hmem hlive (hplanned t hmem) hagenda hw hpid
    exact hnot
  · exact h.not_mem_of_other htidy hplanned hnumber ht hi hlive hlive' hagenda hw hpid

end TaskWork

theorem Fresh.taskHear (h : Fresh s) {number : Nat} {a : Answer}
    (hs : s.taskHear number a = some s') : Fresh s' := by
  obtain ⟨t, t', ht, hlive, ha, rfl⟩ := taskHear_cases hs
  obtain ⟨job, rest, jobs, failures, hagenda, hheard, rfl⟩ := hear_cases ha
  intro t' ht' hlive' pid hpid
  rcases List.mem_or_eq_of_mem_set ht' with ht' | rfl
  · exact h t' ht' hlive' pid hpid
  · refine h t (List.mem_of_getElem? ht) hlive pid ?_
    rw [hagenda, List.flatMap_cons]
    rw [List.flatMap_append] at hpid
    rcases List.mem_append.1 hpid with hpid | hpid
    · exact List.mem_append_left _ (Task.recruits_of_heard hheard hpid)
    · exact List.mem_append_right _ hpid

theorem Fresh.taskEnd (h : Fresh s) {number : Nat} (hs : s.taskEnd number = some s') :
    Fresh s' := by
  obtain ⟨t, ht, -, rfl⟩ := taskEnd_cases hs
  intro t' ht' hlive' pid hpid
  rcases List.mem_or_eq_of_mem_set ht' with ht' | rfl
  · exact h t' ht' hlive' pid hpid
  · cases hpid

/-! ## Runs -/

/-- What holds as well if no list of processes names one twice. -/
structure Exact (s : System) : Prop extends Calm s where
  planned : ∀ t ∈ s.tasks, t.Planned
  fresh : Fresh s

theorem Exact.start (m : MonitorSettings) : Exact (start m) where
  toCalm := .start m
  planned := nofun
  fresh := nofun

theorem Exact.move (h : Exact s) {m : Move} (halone : s.isAlone m.party = true)
    (hlist : ∀ number list, m = .taskHear number (.pids list) → list.Nodup)
    (hm : s.move m = some s') : Exact s' := by
  have hplanned : ∀ t ∈ s'.tasks, t.Planned := by
    refine forall_tasks_of_move ?_ ?_ ?_ ?_ ?_ h.planned hm
    · exact fun serial t ht => .of_mem_tasksFor ht
    · exact fun t ht => ⟨ht.ordered, ht.distinct, ht.inquires⟩
    · exact fun t job rest w hagenda hw ht => ht.perform hagenda hw
    · intro number a t job rest jobs failures hheared hagenda hheard ht
      exact ht.hear hagenda hheard (fun list ha => hlist number list (ha ▸ hheared)) failures
    · exact fun t _ => .nil t
  refine ⟨h.toCalm.move halone hm, hplanned, ?_⟩
  cases m with
  | work => exact h.fresh.works (works_of_work hm)
  | hear a =>
    have hh := hears_of_hear hm
    exact fun t ht => hh.shared_eq ▸ h.fresh t (hh.tasks_eq ▸ ht)
  | taskWork number =>
    obtain ⟨t, job, rest, w, ht, hagenda, hw, rfl⟩ := taskWork_cases hm
    exact h.fresh.taskWork h.toTidy h.planned ht (h.live_of_perform ht hagenda hw) hagenda hw
  | taskHear number a => exact h.fresh.taskHear hm
  | taskEnd number => exact h.fresh.taskEnd hm

/-- No client takes the place of another. -/
theorem Exact.displaced_eq_nil (h : Exact s) {m : Move} (hm : s.move m = some s') :
    s.displaced m = [] := by
  cases m with
  | taskWork number =>
    obtain ⟨t, job, rest, w, ht, hagenda, hw, rfl⟩ := taskWork_cases hm
    have hdisplaced : s.displaced (.taskWork number) = job.displaced s.shared.registry := by
      simp [displaced, ht, hagenda]
    rw [hdisplaced]
    cases job with
    | register c =>
      have hmem := List.mem_of_getElem? ht
      have hregister : Job.register c ∈ t.agenda := hagenda ▸ List.mem_cons_self
      have hnew := h.fresh t hmem (h.live_of_perform ht hagenda hw) c.pid
        (List.mem_flatMap.2 ⟨_, hregister, List.mem_singleton.2 rfl⟩)
      rw [← h.registers t hmem c hregister] at hnew
      have hfind : (s.shared.registry.clients c.serial).find? (·.pid == c.pid) = none := by
        rw [List.find?_eq_none]
        exact fun x hx heq => hnew (List.mem_map.2 ⟨x, hx, beq_iff_eq.1 heq⟩)
      rw [Job.displaced, hfind]
      rfl
    | _ => rfl
  | work | hear | taskHear | taskEnd => rfl

end System

end DebugBridge
