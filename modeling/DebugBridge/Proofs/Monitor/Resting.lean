import DebugBridge.Proofs.Monitor.Trackers

/-!
# What holds whenever the monitor rests

When the monitor waits, all events of the last device list are heeded. Then there are tasks for the
devices online and for no others, and one tracker at most for each of them, however the monitor and
its tasks took turns (`Tidy`).

If whoever has begun to work goes on until it waits (`Calm`), a task that has been told to stop does
nothing more, and a device that is not online has no clients. To drop the clients of a device that
goes offline is a job of the monitor, which is on its agenda until it is done (`Cleared`).
-/

namespace DebugBridge

/-- Is the job to see to it that the clients of a device are dropped? -/
def MonitorJob.clears (serial : String) : MonitorJob → Bool
  | .clearClients k => k == serial
  | .handle (.changed d .state) => d.serial == serial && ! d.isOnline
  | .handle (.disconnected d) => d.serial == serial
  | _ => false

theorem MonitorJob.isChore_of_clears {serial : String} {job : MonitorJob}
    (h : job.clears serial = true) : job.isChore = true := by
  cases job <;> first | rfl | cases h

/-- An event that takes from a device its tasks is one after which its clients are dropped. -/
theorem Event.clears_of_keeps {serial : String} {kept : Bool} {e : Event}
    (h : e.keeps serial kept = false) (hkept : kept = true) :
    (MonitorJob.handle e).clears serial = true := by
  subst hkept
  cases e with
  | connected d => cases h
  | changed d what =>
    cases what with
    | state =>
      rw [keeps] at h
      split_ifs at h with hd
      simp [MonitorJob.clears, hd, h]
    | clientList | buildInfo => cases h
  | disconnected d => simpa [keeps, MonitorJob.clears] using h

theorem exists_clears_of_foldl {serial : String} {events : List Event}
    (h : events.foldl (Event.keeps serial) true = false) :
    ∃ e ∈ events, (MonitorJob.handle e).clears serial = true := by
  induction events with
  | nil => cases h
  | cons e events ih =>
    rw [List.foldl_cons] at h
    cases he : e.keeps serial true with
    | true =>
      rw [he] at h
      obtain ⟨e', he', hclears⟩ := ih h
      exact ⟨e', List.mem_cons_of_mem _ he', hclears⟩
    | false => exact ⟨e, List.mem_cons_self, Event.clears_of_keeps he rfl⟩

namespace System

variable {s s' : System}

/-! ## Clients of devices that are not online -/

/-- A device that is not online has no clients, or they are about to be dropped. -/
def Cleared (s : System) : Prop :=
  ∀ serial, s.shared.registry.isOnline serial = false →
    s.shared.registry.clients serial = [] ∨ ∃ job ∈ s.agenda, job.clears serial = true

/-- To heed an event after which clients are to be dropped is to put that on the agenda. -/
theorem exists_clears_handle {e : Event} {serial : String}
    (h : (MonitorJob.handle e).clears serial = true) :
    ∃ job ∈ (s.handle e).2, job.clears serial = true := by
  cases e with
  | connected d => cases h
  | changed d what =>
    cases what with
    | state =>
      obtain ⟨hd, hoff⟩ := Bool.and_eq_true _ _ ▸ h
      refine ⟨.clearClients d.serial, ?_, hd⟩
      simp [handle, show d.isOnline = false by simpa using hoff]
    | clientList | buildInfo => cases h
  | disconnected d => exact ⟨.clearClients d.serial, List.mem_cons_self, h⟩

/-- A monitor without chores has dropped the clients of all devices that are not online. -/
theorem Cleared.clients_eq_nil (h : Cleared s) (hnone : ∀ job ∈ s.agenda, job.isChore = false)
    {serial : String} (hoff : s.shared.registry.isOnline serial = false) :
    s.shared.registry.clients serial = [] := by
  rcases h serial hoff with hclients | ⟨job, hjob, hclears⟩
  · exact hclients
  · have := MonitorJob.isChore_of_clears hclears
    rw [hnone job hjob] at this
    cases this

theorem Cleared.start (m : MonitorSettings) : Cleared (start m) := fun _ _ => .inl rfl

theorem Cleared.works (h : Cleared s) (ho : Orderly s.agenda) (hw : Works s s') :
    Cleared s' := by
  intro serial hoff
  cases hw with
  | @handle e rest hagenda =>
    rw [shared_handle] at hoff ⊢
    refine (h serial hoff).imp id fun ⟨job, hjob, hclears⟩ => ?_
    rw [hagenda] at hjob
    rcases List.mem_cons.1 hjob with rfl | hjob
    · obtain ⟨job, hjob, hclears⟩ := exists_clears_handle hclears
      exact ⟨job, List.mem_append_left _ hjob, hclears⟩
    · exact ⟨job, List.mem_append_right _ hjob, hclears⟩
  | @clearClients k rest hagenda =>
    by_cases hk : serial = k
    · exact .inl (hk ▸ Registry.clients_clearClients s.shared.registry k)
    · have hoff' : s.shared.registry.isOnline serial = false :=
        (Registry.isOnline_edit (Registry.state_clientsKept _)).symm.trans hoff
      rcases h serial hoff' with hclients | ⟨job, hjob, hclears⟩
      · exact .inl ((Registry.clients_edit_of_ne hk).trans hclients)
      · rw [hagenda] at hjob
        rcases List.mem_cons.1 hjob with rfl | hjob
        · exact absurd (beq_iff_eq.1 hclears).symm hk
        · exact .inr ⟨job, List.mem_append_right _ hjob, hclears⟩
  | @applyList list rest hagenda =>
    have hoff' : (s.shared.registry.applyList list).registry.isOnline serial = false := hoff
    rw [hagenda] at ho
    have hnone : ∀ job ∈ s.agenda, job.isChore = false := hagenda ▸ fun _ => ho.isChore_rest rfl
    rcases Registry.clients_applyList s.shared.registry list serial with hclients | hclients
    · cases hon : s.shared.registry.isOnline serial with
      | false => exact .inl (hclients.trans (h.clients_eq_nil hnone hon))
      | true =>
        -- The device was online before: some event of the list tells that it is so no longer.
        have hfold := (Registry.leadsTo_applyList s.shared.registry list).keeps serial
        rw [Registry.isOnline_replica, Registry.isOnline_replica, hon, hoff'] at hfold
        obtain ⟨e, he, hclears⟩ := exists_clears_of_foldl hfold
        exact .inr ⟨.handle e, List.mem_append_left _ (List.mem_map_of_mem he), hclears⟩
    · exact .inl hclients
  | clear hagenda | quit hagenda => exact .inl rfl
  | release hagenda | giveUp hagenda | retry hagenda | finish hagenda =>
    refine (h serial hoff).imp id fun ⟨job, hjob, hclears⟩ => ?_
    rw [hagenda] at hjob
    rcases List.mem_cons.1 hjob with rfl | hjob
    · cases hclears
    · exact ⟨job, by simp [hjob], hclears⟩

theorem Cleared.hears (h : Cleared s) (ho : Orderly s.agenda) {a : Signal} (hh : Hears s a s') :
    Cleared s' := by
  intro serial hoff
  rw [hh.shared_eq] at hoff ⊢
  refine .inl (h.clients_eq_nil (fun job hjob => ho.isChore_eq_false ?_ hjob) hoff)
  unfold isResting
  cases hh with
  | shutdown hagenda hwaits => simpa [hagenda] using hwaits
  | accepted hagenda | refused hagenda | list hagenda | lost hagenda | woke hagenda =>
    rw [hagenda]
    rfl

/-! ## Every run -/

/-- What holds in every run. -/
structure Tidy (s : System) : Prop where
  orderly : Orderly s.agenda
  follows : Follows s
  assigned : Assigned s
  registers : ∀ t ∈ s.tasks, ∀ c, .register c ∈ t.agenda → c.serial = t.serial

theorem Tidy.start (m : MonitorSettings) : Tidy (start m) where
  orderly := .opening
  follows := .start m
  assigned := .start m
  registers := nofun

theorem Follows.taskWork (h : Follows s) {number : Nat} (hs : s.taskWork number = some s') :
    Follows s' := by
  obtain ⟨t, job, rest, w, -, -, hw, rfl⟩ := taskWork_cases hs
  intro serial
  exact (h serial).trans (Task.isOnline_perform hw serial).symm

theorem Tidy.move (h : Tidy s) {m : Move} (hm : s.move m = some s') : Tidy s' := by
  have hregisters : ∀ t ∈ s'.tasks, ∀ c, .register c ∈ t.agenda → c.serial = t.serial := by
    refine forall_tasks_of_move (Q := fun t => ∀ c, .register c ∈ t.agenda → c.serial = t.serial)
      ?_ ?_ ?_ ?_ ?_ h.registers hm
    · intro serial t ht c hc
      cases waits_of_mem_tasksFor ht hc
    · exact fun t ht => ht
    · intro t job rest w hagenda hw ht c hc
      rcases List.mem_append.1 hc with hc | hc
      · exact Task.serial_of_perform hw hc
      · exact ht c (hagenda ▸ List.mem_cons_of_mem _ hc)
    · intro number a t job rest jobs failures _ hagenda hheard ht c hc
      rcases List.mem_append.1 hc with hc | hc
      · exact absurd hc (Task.ne_register_of_heard hheard c)
      · exact ht c (hagenda ▸ List.mem_cons_of_mem _ hc)
    · exact fun t _ => nofun
  cases m with
  | work =>
    have hw := works_of_work hm
    exact ⟨hw.orderly h.orderly, h.follows.works h.orderly hw, h.assigned.works hw, hregisters⟩
  | hear a =>
    have hh := hears_of_hear hm
    exact ⟨hh.orderly h.orderly, h.follows.hears h.orderly hh, h.assigned.hears hh, hregisters⟩
  | taskWork number =>
    have hfollows := h.follows.taskWork hm
    have hassigned := h.assigned.taskWork hm
    obtain ⟨t, job, rest, w, -, -, -, rfl⟩ := taskWork_cases hm
    exact ⟨h.orderly, hfollows, hassigned, hregisters⟩
  | taskHear number a =>
    have hassigned := h.assigned.taskHear hm
    obtain ⟨t, t', -, -, -, rfl⟩ := taskHear_cases hm
    exact ⟨h.orderly, h.follows, hassigned, hregisters⟩
  | taskEnd number =>
    have hassigned := h.assigned.taskEnd hm
    obtain ⟨t, -, -, rfl⟩ := taskEnd_cases hm
    exact ⟨h.orderly, h.follows, hassigned, hregisters⟩

theorem Tidy.isSome_kept (h : Tidy s) (hrest : s.isResting = true) (serial : String) :
    (s.kept.get? serial).isSome = s.shared.registry.isOnline serial :=
  h.follows.isSome_kept (pending_of_resting h.orderly hrest)

/-- While the monitor rests, a task that has not been told to stop works for a device that is
online. -/
theorem Tidy.isOnline_of_live (h : Tidy s) (hrest : s.isResting = true) {number : Nat} {t : Task}
    (ht : s.tasks[number]? = some t) (hlive : t.aborted = false) :
    s.shared.registry.isOnline t.serial = true := by
  obtain ⟨numbers, hnumbers, -⟩ := h.assigned.kept_of_live ht hlive
  rw [← h.isSome_kept hrest, hnumbers]
  rfl

/-! ## Runs in which nobody is interrupted -/

/-- What holds as well if whoever has begun to work goes on until it waits. -/
structure Calm (s : System) : Prop extends Tidy s where
  idle : ∀ t ∈ s.tasks, t.aborted = true → t.isBusy = false
  cleared : Cleared s

theorem Calm.start (m : MonitorSettings) : Calm (start m) where
  toTidy := .start m
  idle := nofun
  cleared := .start m

theorem isBusy_of_isAlone (h : s.isAlone .monitor = true) {t : Task} (ht : t ∈ s.tasks) :
    t.isBusy = false := by
  obtain ⟨-, h⟩ := Bool.and_eq_true _ _ ▸ h
  obtain ⟨number, hnumber⟩ := List.mem_iff_getElem?.1 ht
  have := List.all_eq_true.1 h (t, number) (List.mk_mem_zipIdx_iff_getElem?.2 hnumber)
  simpa using this

theorem isResting_of_isAlone {number : Nat} (h : s.isAlone (.task number) = true) :
    s.isResting = true := by
  simpa using (Bool.and_eq_true _ _ ▸ h : _ ∧ _).1

/-- The monitor tells tasks to stop while all of them wait. -/
theorem isBusy_works (hw : Works s s') (h : ∀ t ∈ s.tasks, t.isBusy = false) :
    ∀ t ∈ s'.tasks, t.isBusy = false := by
  intro t ht
  rcases hw.mem_tasks ht with ⟨old, hold, rfl | rfl⟩ | ⟨serial, hnew⟩
  · exact h t hold
  · exact h old hold
  · unfold Task.isBusy
    cases hagenda : t.agenda with
    | nil => rfl
    | cons job rest =>
      have := waits_of_mem_tasksFor hnew (hagenda ▸ List.mem_cons_self : job ∈ t.agenda)
      simp [this]

/-- A task that works has not been told to stop. -/
theorem Calm.live_of_perform (h : Calm s) {number : Nat} {t : Task} {job : Job} {rest : List Job}
    {w : Task.Work} (ht : s.tasks[number]? = some t) (hagenda : t.agenda = job :: rest)
    (hw : t.perform s.settings s.shared job = some w) : t.aborted = false := by
  cases haborted : t.aborted with
  | false => rfl
  | true =>
    have := h.idle t (List.mem_of_getElem? ht) haborted
    simp [Task.isBusy, hagenda, Task.waits_of_perform hw] at this

theorem Calm.idle_move (h : Calm s) {m : Move} (halone : s.isAlone m.party = true)
    (hm : s.move m = some s') : ∀ t ∈ s'.tasks, t.aborted = true → t.isBusy = false := by
  intro t ht haborted
  cases m with
  | work => exact isBusy_works (works_of_work hm) (fun t => isBusy_of_isAlone halone) t ht
  | hear a => exact h.idle t ((hears_of_hear hm).tasks_eq ▸ ht) haborted
  | taskWork number =>
    obtain ⟨old, job, rest, w, hold, hagenda, hw, rfl⟩ := taskWork_cases hm
    rcases List.mem_or_eq_of_mem_set ht with ht | rfl
    · exact h.idle t ht haborted
    · have hlive := h.live_of_perform hold hagenda hw
      rw [show old.aborted = true from haborted] at hlive
      cases hlive
  | taskHear number a =>
    obtain ⟨old, new, hold, hlive, ha, rfl⟩ := taskHear_cases hm
    rcases List.mem_or_eq_of_mem_set ht with ht | rfl
    · exact h.idle t ht haborted
    · obtain ⟨job, rest, jobs, failures, -, -, rfl⟩ := hear_cases ha
      rw [show old.aborted = true from haborted] at hlive
      cases hlive
  | taskEnd number =>
    obtain ⟨old, hold, -, rfl⟩ := taskEnd_cases hm
    rcases List.mem_or_eq_of_mem_set ht with ht | rfl
    · exact h.idle t ht haborted
    · rfl

/-- A task brings clients to a device that is online. -/
theorem Calm.cleared_taskWork (h : Calm s) {number : Nat}
    (halone : s.isAlone (.task number) = true) (hs : s.taskWork number = some s') :
    Cleared s' := by
  obtain ⟨t, job, rest, w, ht, hagenda, hw, rfl⟩ := taskWork_cases hs
  intro serial hoff
  have hoff' : s.shared.registry.isOnline serial = false :=
    (Task.isOnline_perform hw serial).symm.trans hoff
  refine (h.cleared serial hoff').imp (fun hclients => ?_) id
  rw [← Registry.pids_eq_nil_iff] at hclients ⊢
  refine List.eq_nil_iff_forall_not_mem.2 fun pid hpid => ?_
  rcases Task.mem_pids_perform hw hpid with hpid | ⟨c, rfl, hserial, -⟩
  · rw [hclients] at hpid
    cases hpid
  · have hlive := h.live_of_perform ht hagenda hw
    have hon := h.isOnline_of_live (isResting_of_isAlone halone) ht hlive
    have hregister : Job.register c ∈ t.agenda := hagenda ▸ List.mem_cons_self
    rw [← h.registers t (List.mem_of_getElem? ht) c hregister, hserial, hoff'] at hon
    cases hon

theorem Calm.move (h : Calm s) {m : Move} (halone : s.isAlone m.party = true)
    (hm : s.move m = some s') : Calm s' := by
  have hcleared : Cleared s' := by
    cases m with
    | work => exact h.cleared.works h.orderly (works_of_work hm)
    | hear a => exact h.cleared.hears h.orderly (hears_of_hear hm)
    | taskWork number => exact h.cleared_taskWork halone hm
    | taskHear number a =>
      obtain ⟨t, t', -, -, -, rfl⟩ := taskHear_cases hm
      exact h.cleared
    | taskEnd number =>
      obtain ⟨t, -, -, rfl⟩ := taskEnd_cases hm
      exact h.cleared
  exact ⟨h.toTidy.move hm, h.idle_move halone hm, hcleared⟩

/-! ## The monitor rests -/

/-- **Main theorem.** Whenever the monitor rests, it keeps tasks for exactly the devices that are
online, and no device has two trackers that have not been told to stop. If nobody was interrupted,
no task that has been told to stop has anything to do but wait, and a device that is not online has
no clients. -/
theorem run_tasks_of_resting (settings : MonitorSettings) {moves : List Move}
    (h : (start settings).run moves = some s) (hrest : s.isResting = true) :
    (∀ serial, (s.kept.get? serial).isSome = s.shared.registry.isOnline serial) ∧
      (∀ (i j : Nat) (t t' : Task), s.tasks[i]? = some t → s.tasks[j]? = some t' →
        t.isTracker = true → t'.isTracker = true → t.aborted = false → t'.aborted = false →
        t.serial = t'.serial → i = j) ∧
      ((start settings).uninterrupted moves = true →
        (∀ t ∈ s.tasks, t.aborted = true → t.isBusy = false) ∧
          ∀ d ∈ s.shared.registry.devices, d.isOnline = false → d.clients = []) := by
  have htidy : Tidy s := run_induction (fun h hm => h.move hm) (Tidy.start settings) h
  refine ⟨htidy.isSome_kept hrest, ?_, fun halone => ?_⟩
  · intro i j t t' hi hj ht ht' hlive hlive' hserial
    exact htidy.assigned.eq_of_serial_eq hi hj ht ht' hlive hlive' hserial
  · have hcalm : Calm s :=
      uninterrupted_induction (fun h halone hm => h.move halone hm) (Calm.start settings) halone h
    refine ⟨hcalm.idle, fun d hd hoff => ?_⟩
    obtain ⟨⟨serial, r⟩, hr, rfl⟩ := List.mem_map.1 hd
    have hget := Dict.mem_entries_iff.1 hr
    have hoff' : s.shared.registry.isOnline serial = false := by
      simpa [Registry.isOnline_eq, hget, Record.snapshot, Snapshot.isOnline] using hoff
    have hnone := hcalm.cleared.clients_eq_nil
      (fun job hjob => hcalm.orderly.isChore_eq_false hrest hjob) hoff'
    rwa [Registry.clients_of_get? hget] at hnone

/-- A device comes online and its tracker registers a client. A device list then tells that it is
online no longer, and that there is another device, which is online. -/
def goingOffline : List Move :=
  [.hear .accepted, .hear (.list [⟨"a", .online⟩]), .work, .work, .taskHear 0 .accepted,
    .taskHear 0 (.pids [7]), .taskWork 0, .taskWork 0, .taskHear 0 (.described none), .taskWork 0,
    .taskWork 0, .taskWork 0, .hear (.list [⟨"a", .offline⟩, ⟨"b", .online⟩]), .work, .work, .work,
    .work, .work]

theorem tasks_of_resting_goingOffline :
    ∃ s, (start clientsOnly).run goingOffline = some s ∧ s.isResting = true ∧
      (start clientsOnly).uninterrupted goingOffline = true ∧
      (s.kept.get? "a").isSome = s.shared.registry.isOnline "a" ∧
      (s.kept.get? "b").isSome = s.shared.registry.isOnline "b" ∧
      ∀ d ∈ s.shared.registry.devices, d.isOnline = false → d.clients = [] := by
  have hrest : ((start clientsOnly).run goingOffline).map (·.isResting) = some true := by
    decide +kernel
  have halone : (start clientsOnly).uninterrupted goingOffline = true := by decide +kernel
  obtain ⟨s, hs, hrest⟩ := Option.map_eq_some_iff.1 hrest
  obtain ⟨hkept, -, hcalm⟩ := run_tasks_of_resting clientsOnly hs hrest
  exact ⟨s, hs, hrest, halone, hkept "a", hkept "b", (hcalm halone).2⟩

end System

end DebugBridge
