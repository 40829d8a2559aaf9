import DebugBridge.Proofs.Monitor.Resting

/-!
# When the monitor tries again, and when it stops

The failures in a row are told by the signals that the monitor has heard (`failuresIn`). The
invariant says for each form of its agenda how its status and its own count go with them (`Course`):
it has a status other than connected only while there are no devices, it goes to sleep only after a
failure, and its count is behind by one only where a failure is yet to be dealt with.

Results:
* `Course.run`: the invariant holds in every run.
* `Orderly.settles`: the monitor comes to rest by its own work.
* `run_reconnecting`: what it does at each failure, and when it stops.
-/

namespace DebugBridge

namespace System

variable {s s' : System} {heard : List Signal}

theorem failuresIn_append (heard : List Signal) (a : Signal) :
    failuresIn (heard ++ [a]) = countFailure (failuresIn heard) a := by
  rw [failuresIn, List.foldl_append]
  rfl

/-- The monitor has not been told to stop, and may have failed so often. -/
def IsOpen (m : MonitorSettings) (heard : List Signal) (failures : Nat) : Prop :=
  .shutdown ∉ heard ∧ ∀ most, m.maxReconnectAttempts = some most → failures ≤ most.toNat

/-- The monitor has been told to stop, or has failed once more than it may. -/
def IsOver (m : MonitorSettings) (heard : List Signal) : Prop :=
  .shutdown ∈ heard ∨ ∃ most, m.maxReconnectAttempts = some most ∧ failuresIn heard = most.toNat + 1

theorem IsOpen.not_isOver {m : MonitorSettings} (h : IsOpen m heard (failuresIn heard)) :
    ¬ IsOver m heard := by
  rintro (htold | ⟨most, hmost, hfailures⟩)
  · exact h.1 htold
  · have := h.2 most hmost
    omega

/-- How status and failures go with an agenda, after the monitor has heard some signals. -/
inductive Course (s : System) (heard : List Signal) : List MonitorJob → Prop
  | opening (hstatus : s.status = .connecting ∧ failuresIn heard = 0 ∨
      s.status = .reconnecting (failuresIn heard) ∧ 0 < failuresIn heard)
    (hempty : s.shared.registry = .empty) (hcount : s.failures = failuresIn heard)
    (hopen : IsOpen s.settings heard (failuresIn heard)) : Course s heard [.openStream]
  | sleeping {wait : Duration} (hstatus : s.status = .reconnecting (failuresIn heard))
    (hpos : 0 < failuresIn heard) (hwait : wait = Task.backoffWait s.settings (failuresIn heard))
    (hempty : s.shared.registry = .empty) (hcount : s.failures = failuresIn heard)
    (hopen : IsOpen s.settings heard (failuresIn heard)) :
    Course s heard [.sleep wait, .openStream]
  | following (hstatus : s.status = .connected) (hcount : s.failures = 0)
    (hnone : failuresIn heard = 0) (htold : .shutdown ∉ heard) : Course s heard [.nextList]
  | listed {list : List Listed} (hstatus : s.status = .connected) (hcount : s.failures = 0)
    (hnone : failuresIn heard = 0) (htold : .shutdown ∉ heard) :
    Course s heard [.applyList list, .nextList]
  | parting (hstatus : s.status = .connected) (hcount : s.failures = 0)
    (hone : failuresIn heard = 1) (htold : .shutdown ∉ heard) : Course s heard [.clear, .retry]
  | failing (hstatus : s.status ≠ .stopped) (hempty : s.shared.registry = .empty)
    (hcount : failuresIn heard = s.failures + 1) (hopen : IsOpen s.settings heard s.failures) :
    Course s heard [.retry]
  | quitting (hstatus : s.status ≠ .stopped)
    (hempty : s.status ≠ .connected → s.shared.registry = .empty)
    (hover : IsOver s.settings heard) : Course s heard [.quit]
  | finishing (hstatus : s.status ≠ .stopped) (hempty : s.shared.registry = .empty)
    (hover : IsOver s.settings heard) : Course s heard [.finish]
  | ended (hstatus : s.status = .stopped) (hempty : s.shared.registry = .empty)
    (hover : IsOver s.settings heard) : Course s heard []
  | chore {job : MonitorJob} {rest : List MonitorJob} (h : job.isChore = true)
    (hstatus : s.status = .connected) (hrest : Course s heard rest) : Course s heard (job :: rest)

theorem Course.start (m : MonitorSettings) : Course (start m) [] (start m).agenda :=
  .opening (.inl ⟨rfl, rfl⟩) rfl rfl ⟨nofun, fun _ _ => Nat.zero_le _⟩

/-! ## Agendas with chores -/

theorem Course.append {chores rest : List MonitorJob} (h : ∀ job ∈ chores, job.isChore = true)
    (hstatus : s.status = .connected) (hrest : Course s heard rest) :
    Course s heard (chores ++ rest) := by
  induction chores with
  | nil => exact hrest
  | cons job chores ih =>
    obtain ⟨hjob, hchores⟩ := List.forall_mem_cons.1 h
    exact .chore hjob hstatus (ih hchores)

theorem Course.of_chore {job : MonitorJob} {rest : List MonitorJob}
    (h : Course s heard (job :: rest)) (hjob : job.isChore = true) :
    s.status = .connected ∧ Course s heard rest := by
  cases h with
  | chore _ hstatus hrest => exact ⟨hstatus, hrest⟩
  | _ => cases hjob

/-- It does not matter what becomes of the tasks, or of the devices if there are any. -/
theorem Course.congr {agenda : List MonitorJob} (h : Course s heard agenda)
    (hsettings : s'.settings = s.settings) (hstatus : s'.status = s.status)
    (hfailures : s'.failures = s.failures)
    (hempty : s.shared.registry = .empty → s'.shared.registry = .empty) :
    Course s' heard agenda := by
  induction h with
  | opening hst hemp hcount hopen =>
    exact .opening (hstatus ▸ hst) (hempty hemp) (hfailures ▸ hcount) (hsettings ▸ hopen)
  | sleeping hst hpos hwait hemp hcount hopen =>
    exact .sleeping (hstatus ▸ hst) hpos (hsettings ▸ hwait) (hempty hemp) (hfailures ▸ hcount)
      (hsettings ▸ hopen)
  | following hst hcount hnone htold =>
    exact .following (hstatus ▸ hst) (hfailures ▸ hcount) hnone htold
  | listed hst hcount hnone htold =>
    exact .listed (hstatus ▸ hst) (hfailures ▸ hcount) hnone htold
  | parting hst hcount hone htold =>
    exact .parting (hstatus ▸ hst) (hfailures ▸ hcount) hone htold
  | failing hst hemp hcount hopen =>
    exact .failing (hstatus ▸ hst) (hempty hemp) (hfailures ▸ hcount)
      (hsettings ▸ hfailures ▸ hopen)
  | quitting hst hemp hover =>
    exact .quitting (hstatus ▸ hst) (fun h => hempty (hemp (hstatus ▸ h))) (hsettings ▸ hover)
  | finishing hst hemp hover =>
    exact .finishing (hstatus ▸ hst) (hempty hemp) (hsettings ▸ hover)
  | ended hst hemp hover => exact .ended (hstatus ▸ hst) (hempty hemp) (hsettings ▸ hover)
  | chore hjob hst _ ih => exact .chore hjob (hstatus ▸ hst) ih

/-! ## The monitor works -/

theorem givesUp_eq_true_iff {m : MonitorSettings} {failures : Nat} :
    givesUp m failures = true ↔
      ∃ most, m.maxReconnectAttempts = some most ∧ most.toNat < failures := by
  unfold givesUp
  cases m.maxReconnectAttempts with
  | none => simp
  | some most => simp

theorem givesUp_eq_false_iff {m : MonitorSettings} {failures : Nat} :
    givesUp m failures = false ↔
      ∀ most, m.maxReconnectAttempts = some most → failures ≤ most.toNat := by
  unfold givesUp
  cases m.maxReconnectAttempts with
  | none => simp
  | some most => simp

theorem Course.works (h : Course s heard s.agenda) (hw : Works s s') :
    Course s' heard s'.agenda := by
  cases hw with
  | @handle e rest hagenda =>
    rw [hagenda] at h
    obtain ⟨hstatus, hrest⟩ := h.of_chore rfl
    obtain ⟨kept, tasks, heq⟩ := s.handle_eq e
    rw [heq]
    exact .append (fun _ => isChore_of_mem_handle) hstatus (hrest.congr rfl rfl rfl id)
  | @clearClients serial rest hagenda =>
    rw [hagenda] at h
    obtain ⟨hstatus, hrest⟩ := h.of_chore rfl
    refine .append (fun _ => MonitorJob.isChore_of_mem_releases) hstatus ?_
    refine hrest.congr rfl rfl rfl fun hempty => ?_
    simp only [publish, hempty]
    rfl
  | release hagenda =>
    rw [hagenda] at h
    exact (h.of_chore rfl).2.congr rfl rfl rfl id
  | applyList hagenda =>
    rw [hagenda] at h
    cases h with
    | listed hstatus hcount hnone htold =>
      exact .append (fun _ => isChore_of_mem_map_handle) hstatus
        (.following hstatus hcount hnone htold)
    | chore h => cases h
  | clear hagenda =>
    rw [hagenda] at h
    cases h with
    | parting hstatus hcount hone htold =>
      have hstopped : s.status ≠ .stopped := by
        rw [hstatus]
        exact nofun
      refine .append (fun _ => isChore_of_mem_map_handle) hstatus
        (.failing hstopped rfl ?_ ⟨htold, ?_⟩)
      · exact hone.trans (congrArg (· + 1) hcount.symm)
      · exact fun most _ => Nat.le_trans (Nat.le_of_eq hcount) (Nat.zero_le _)
    | chore h => cases h
  | giveUp hagenda hmost =>
    rw [hagenda] at h
    cases h with
    | failing hstatus hempty hcount hopen =>
      refine .quitting hstatus (fun _ => hempty) (.inr ?_)
      obtain ⟨most, hsome, hlt⟩ := givesUp_eq_true_iff.1 hmost
      have := hopen.2 most hsome
      exact ⟨most, hsome, by omega⟩
    | chore h => cases h
  | retry hagenda hmost =>
    rw [hagenda] at h
    cases h with
    | failing hstatus hempty hcount hopen =>
      have hopen' : IsOpen s.settings heard (failuresIn heard) :=
        ⟨hopen.1, hcount ▸ givesUp_eq_false_iff.1 hmost⟩
      have hpos : 0 < failuresIn heard := hcount ▸ Nat.succ_pos _
      exact .sleeping (congrArg MonitorStatus.reconnecting hcount.symm) hpos
        (congrArg (Task.backoffWait s.settings) hcount.symm) hempty hcount.symm hopen'
    | chore h => cases h
  | quit hagenda =>
    rw [hagenda] at h
    cases h with
    | quitting hstatus hempty hover =>
      rw [List.append_nil]
      -- Without a connection there are no devices, and so no ports to give back.
      by_cases hconnected : s.status = .connected
      · exact .append (fun _ => isChore_of_mem_lastReleases) hconnected
          (.finishing hstatus rfl hover)
      · rw [hempty hconnected]
        exact .finishing hstatus rfl hover
    | chore h => cases h
  | finish hagenda =>
    rw [hagenda] at h
    cases h with
    | finishing hstatus hempty hover => exact .ended rfl hempty hover
    | chore h => cases h

/-! ## The monitor hears -/

theorem shutdown_not_mem_append {a : Signal} (h : .shutdown ∉ heard) (ha : a ≠ .shutdown) :
    .shutdown ∉ heard ++ [a] := by
  simpa [h] using Ne.symm ha

theorem Course.hears (h : Course s heard s.agenda) {a : Signal} (hh : Hears s a s') :
    Course s' (heard ++ [a]) s'.agenda := by
  have hfailures := failuresIn_append heard a
  cases hh with
  | shutdown hagenda hwaits =>
    have hover : IsOver s.settings (heard ++ [.shutdown]) := .inl (by simp)
    rw [hagenda] at h
    cases h with
    | opening hstatus hempty =>
      refine .quitting ?_ (fun _ => hempty) hover
      rcases hstatus with ⟨hstatus, -⟩ | ⟨hstatus, -⟩ <;> simp [hstatus]
    | sleeping hstatus _ _ hempty => exact .quitting (by simp [hstatus]) (fun _ => hempty) hover
    | following hstatus =>
      exact .quitting (by simp [hstatus]) (fun hnot => absurd hstatus hnot) hover
    | chore hjob =>
      rw [MonitorJob.isChore_eq_false_of_waits hwaits] at hjob
      cases hjob
    | listed | parting | failing | quitting | finishing => cases hwaits
  | accepted hagenda =>
    rw [hagenda] at h
    cases h with
    | opening hstatus hempty hcount hopen =>
      exact .following rfl rfl hfailures (shutdown_not_mem_append hopen.1 nofun)
    | chore h => cases h
  | refused hagenda =>
    rw [hagenda] at h
    cases h with
    | opening hstatus hempty hcount hopen =>
      refine .failing ?_ hempty (hcount ▸ hfailures)
        ⟨shutdown_not_mem_append hopen.1 nofun, hcount ▸ hopen.2⟩
      rcases hstatus with ⟨hstatus, -⟩ | ⟨hstatus, -⟩ <;> simp [hstatus]
    | chore h => cases h
  | list hagenda =>
    rw [hagenda] at h
    cases h with
    | following hstatus hcount hnone htold =>
      exact .listed hstatus hcount (hfailures.trans hnone) (shutdown_not_mem_append htold nofun)
    | chore h => cases h
  | lost hagenda =>
    rw [hagenda] at h
    cases h with
    | following hstatus hcount hnone htold =>
      have hone := hfailures.trans (congrArg (· + 1) hnone)
      exact .parting hstatus hcount hone (shutdown_not_mem_append htold nofun)
    | chore h => cases h
  | woke hagenda =>
    rw [hagenda] at h
    have hsame : failuresIn (heard ++ [.woke]) = failuresIn heard := hfailures
    cases h with
    | sleeping hstatus hpos hwait hempty hcount hopen =>
      refine .opening ?_ hempty (hsame ▸ hcount)
        (hsame ▸ ⟨shutdown_not_mem_append hopen.1 nofun, hopen.2⟩)
      exact .inr ⟨hsame ▸ hstatus, hsame ▸ hpos⟩
    | chore h => cases h

/-! ## Runs -/

theorem Course.move (h : Course s heard s.agenda) {m : Move} (hm : s.move m = some s') :
    Course s' (heard ++ m.signal?.toList) s'.agenda := by
  have hnone : heard ++ [] = heard := List.append_nil heard
  cases m with
  | work => exact hnone.symm ▸ h.works (works_of_work hm)
  | hear a => exact h.hears (hears_of_hear hm)
  | taskWork number =>
    obtain ⟨t, job, rest, w, -, -, hw, rfl⟩ := taskWork_cases hm
    exact hnone.symm ▸ h.congr rfl rfl rfl fun hempty => Task.perform_of_empty hempty hw
  | taskHear number a =>
    obtain ⟨t, t', -, -, -, rfl⟩ := taskHear_cases hm
    exact hnone.symm ▸ h.congr rfl rfl rfl id
  | taskEnd number =>
    obtain ⟨t, -, -, rfl⟩ := taskEnd_cases hm
    exact hnone.symm ▸ h.congr rfl rfl rfl id

theorem Course.run (h : Course s heard s.agenda) {moves : List Move}
    (hrun : s.run moves = some s') : Course s' (heard ++ signals moves) s'.agenda := by
  induction moves generalizing s heard with
  | nil =>
    cases hrun
    rwa [signals, List.filterMap_nil, List.append_nil]
  | cons m moves ih =>
    obtain ⟨s₁, hm, hrun⟩ := Option.bind_eq_some_iff.1 hrun
    have := ih (h.move hm) hrun
    rwa [List.append_assoc, ← signals_cons] at this

/-! ## What the invariant tells -/

theorem Course.registry_eq_empty {agenda : List MonitorJob} (h : Course s heard agenda)
    (hstatus : s.status ≠ .connected) : s.shared.registry = .empty := by
  cases h with
  | opening _ hempty | failing _ hempty | finishing _ hempty | ended _ hempty => exact hempty
  | sleeping _ _ _ hempty => exact hempty
  | quitting _ hempty => exact hempty hstatus
  | following hconnected | listed hconnected | parting hconnected | chore _ hconnected =>
    exact absurd hconnected hstatus

theorem Course.events_eq_nil {agenda : List MonitorJob} (h : Course s heard agenda)
    (hstatus : s.status ≠ .connected) : agenda.filterMap (·.event?) = [] := by
  cases h with
  | chore _ hconnected => exact absurd hconnected hstatus
  | _ => rfl

/-- While the monitor is not connected, it keeps no tasks. -/
theorem Course.kept_eq_empty (h : Course s heard s.agenda) (hf : Follows s)
    (hstatus : s.status ≠ .connected) : s.kept = .empty := by
  refine Dict.ext_get? fun serial => ?_
  have hserial : (s.kept.get? serial).isSome = s.shared.registry.isOnline serial :=
    hf.isSome_kept (h.events_eq_nil hstatus)
  rw [h.registry_eq_empty hstatus, Registry.isOnline_empty] at hserial
  rw [Dict.get?_empty]
  simpa using hserial

/-- The monitor sleeps after a failure, for a time that depends on how many there were in a row. -/
theorem Course.of_sleep {wait : Duration} {rest : List MonitorJob}
    (h : Course s heard (.sleep wait :: rest)) :
    0 < failuresIn heard ∧ s.status = .reconnecting (failuresIn heard) ∧
      wait = Task.backoffWait s.settings (failuresIn heard) := by
  cases h with
  | sleeping hstatus hpos hwait => exact ⟨hpos, hstatus, hwait⟩
  | chore hjob => cases hjob

theorem Course.agenda_eq_nil {agenda : List MonitorJob} (h : Course s heard agenda)
    (hstatus : s.status = .stopped) : agenda = [] := by
  cases h with
  | ended => rfl
  | opening h1 => rcases h1 with ⟨h1, -⟩ | ⟨h1, -⟩ <;> simp [h1] at hstatus
  | sleeping h1 | following h1 | listed h1 | parting h1 | chore _ h1 => simp [h1] at hstatus
  | failing h1 | quitting h1 | finishing h1 => exact absurd hstatus h1

/-- A monitor at rest has stopped if it is to stop, or is open and knows the failures in a row. -/
theorem Course.of_resting (h : Course s heard s.agenda) (hrest : s.isResting = true) :
    (s.status = .stopped ∧ IsOver s.settings heard) ∨
      (s.status ≠ .stopped ∧ IsOpen s.settings heard (failuresIn heard) ∧
        ∀ failures, s.status = .reconnecting failures → failures = failuresIn heard) := by
  unfold isResting at hrest
  generalize s.agenda = agenda at h hrest
  cases h with
  | ended hstatus _ hover => exact .inl ⟨hstatus, hover⟩
  | opening hstatus _ _ hopen =>
    rcases hstatus with ⟨hstatus, -⟩ | ⟨hstatus, -⟩
    · exact .inr ⟨by simp [hstatus], hopen, by simp [hstatus]⟩
    · exact .inr ⟨by simp [hstatus], hopen, by simp [hstatus, eq_comm]⟩
  | sleeping hstatus _ _ _ _ hopen =>
    exact .inr ⟨by simp [hstatus], hopen, by simp [hstatus, eq_comm]⟩
  | following hstatus _ hnone htold =>
    refine .inr ⟨by simp [hstatus], ⟨htold, fun most _ => ?_⟩, by simp [hstatus]⟩
    rw [hnone]
    exact Nat.zero_le _
  | listed | parting | failing | quitting | finishing => cases hrest
  | @chore job rest hjob => cases job <;> simp [MonitorJob.isChore, MonitorJob.waits] at hjob hrest

/-! ## The monitor comes to rest -/

/-- The monitor comes to rest if it works for a while. -/
def Settles (s : System) : Prop :=
  ∃ n s', s.run (List.replicate n .work) = some s' ∧ s'.isResting = true

theorem Settles.of_resting (h : s.isResting = true) : Settles s := ⟨0, s, rfl, h⟩

theorem Settles.of_work {job : MonitorJob} {rest jobs : List MonitorJob} {s₁ : System}
    (hagenda : s.agenda = job :: rest) (hperform : s.perform job = some (s₁, jobs))
    (h : Settles { s₁ with agenda := jobs ++ rest }) : Settles s := by
  obtain ⟨n, s', hrun, hrest⟩ := h
  refine ⟨n + 1, s', ?_, hrest⟩
  have hwork : s.move .work = some { s₁ with agenda := jobs ++ rest } := by
    simp [System.move, work, hagenda, hperform]
  rw [List.replicate_succ, run_cons, hwork]
  exact hrun

/-- Whoever has this agenda comes to rest. -/
def AgendaSettles (agenda : List MonitorJob) : Prop := ∀ s : System, s.agenda = agenda → Settles s

theorem AgendaSettles.of_waits {job : MonitorJob} {rest : List MonitorJob} (h : job.waits = true) :
    AgendaSettles (job :: rest) :=
  fun _ hagenda => .of_resting (by rw [isResting, hagenda]; exact h)

theorem AgendaSettles.releases {rest : List MonitorJob} (h : AgendaSettles rest)
    (clients : List Client) : AgendaSettles (MonitorJob.releases clients ++ rest) := by
  induction clients with
  | nil => exact h
  | cons c clients ih =>
    unfold MonitorJob.releases at ih ⊢
    rw [List.filterMap_cons]
    cases c.debuggerPort with
    | none => exact ih
    | some port => exact fun s hagenda => .of_work hagenda rfl (ih _ rfl)

theorem AgendaSettles.clearClients {rest : List MonitorJob} (h : AgendaSettles rest)
    (serial : String) : AgendaSettles (.clearClients serial :: rest) :=
  fun _ hagenda => .of_work hagenda rfl (h.releases _ _ rfl)

theorem AgendaSettles.handle {rest : List MonitorJob} (h : AgendaSettles rest) (e : Event) :
    AgendaSettles (.handle e :: rest) := by
  refine fun s hagenda => .of_work hagenda rfl ?_
  suffices AgendaSettles ((s.handle e).2 ++ rest) from this _ rfl
  cases e with
  | connected d => exact h
  | changed d what =>
    cases what with
    | state =>
      rw [System.handle]
      split_ifs
      · exact h
      · exact h.clearClients d.serial
    | clientList | buildInfo => exact h
  | disconnected d => exact (h.releases d.clients).clearClients d.serial

theorem AgendaSettles.chores {chores rest : List MonitorJob} (h : AgendaSettles rest)
    (hchores : ∀ job ∈ chores, job.isChore = true) : AgendaSettles (chores ++ rest) := by
  induction chores with
  | nil => exact h
  | cons job chores ih =>
    obtain ⟨hjob, hrest⟩ := List.forall_mem_cons.1 hchores
    cases job with
    | handle e => exact (ih hrest).handle e
    | clearClients serial => exact (ih hrest).clearClients serial
    | release port => exact fun s hagenda => .of_work hagenda rfl (ih hrest _ rfl)
    | openStream | nextList | sleep | applyList | clear | retry | quit | finish => cases hjob

theorem agendaSettles_quit : AgendaSettles [.quit] := by
  refine fun s hagenda => .of_work hagenda rfl ?_
  have hfinish : AgendaSettles [.finish] := fun s hagenda => .of_work hagenda rfl (.of_resting rfl)
  have hlast : AgendaSettles (lastReleases s.shared.registry.clear.events ++ [.finish]) :=
    hfinish.chores fun _ => isChore_of_mem_lastReleases
  exact hlast _ (List.append_nil _)

theorem agendaSettles_retry : AgendaSettles [.retry] := by
  intro s hagenda
  cases hmost : givesUp s.settings (s.failures + 1) with
  | true =>
    have hperform : s.perform .retry = some ({ s with failures := s.failures + 1 }, [.quit]) := by
      rw [perform_retry, if_pos hmost]
    exact .of_work hagenda hperform (agendaSettles_quit _ rfl)
  | false =>
    have hperform : s.perform .retry = some
        ({ s with failures := s.failures + 1, status := .reconnecting (s.failures + 1) },
          [.sleep (Task.backoffWait s.settings (s.failures + 1)), .openStream]) := by
      rw [perform_retry, if_neg (by simp [hmost])]
    exact .of_work hagenda hperform (.of_resting rfl)

theorem Orderly.settles (ho : Orderly s.agenda) : Settles s := by
  suffices ∀ agenda, Orderly agenda → AgendaSettles agenda from this s.agenda ho s rfl
  intro agenda ho
  -- A form without chores leads to one that waits; chores before it lead to itself.
  induction ho with
  | opening | following | sleeping => exact .of_waits rfl
  | ended => exact fun s hagenda => .of_resting (by rw [isResting, hagenda]; rfl)
  | listed list =>
    have hnext : AgendaSettles [.nextList] := .of_waits rfl
    exact fun s hagenda => .of_work hagenda rfl
      (hnext.chores (fun _ => isChore_of_mem_map_handle) _ rfl)
  | parting =>
    exact fun s hagenda => .of_work hagenda rfl
      (agendaSettles_retry.chores (fun _ => isChore_of_mem_map_handle) _ rfl)
  | failing => exact agendaSettles_retry
  | quitting => exact agendaSettles_quit
  | finishing => exact fun s hagenda => .of_work hagenda rfl (.of_resting rfl)
  | chore hjob _ ih => exact ih.chores (List.forall_mem_singleton.2 hjob)

/-! ## Failures and the end -/

theorem settings_move {m : Move} (hm : s.move m = some s') : s'.settings = s.settings := by
  cases m with
  | work =>
    cases works_of_work hm with
    | @handle e =>
      obtain ⟨kept, tasks, heq⟩ := s.handle_eq e
      rw [heq]
    | clearClients | release | applyList | clear | giveUp | retry | quit | finish => rfl
  | hear a => cases hears_of_hear hm <;> rfl
  | taskWork number =>
    obtain ⟨t, job, rest, w, -, -, -, rfl⟩ := taskWork_cases hm
    rfl
  | taskHear number a =>
    obtain ⟨t, t', -, -, -, rfl⟩ := taskHear_cases hm
    rfl
  | taskEnd number =>
    obtain ⟨t, -, -, rfl⟩ := taskEnd_cases hm
    rfl

theorem settings_run {moves : List Move} (h : s.run moves = some s') : s'.settings = s.settings :=
  run_induction (P := fun s' => s'.settings = s.settings)
    (fun h hm => (settings_move hm).trans h) rfl h

/-- A monitor that has stopped does nothing any more. -/
theorem stopped_run (h : Course s heard s.agenda) (hstopped : s.status = .stopped)
    {moves : List Move} (hrun : s.run moves = some s') : s'.status = .stopped := by
  have hagenda := h.agenda_eq_nil hstopped
  have : s'.status = .stopped ∧ s'.agenda = [] := by
    refine run_induction (P := fun s => s.status = .stopped ∧ s.agenda = []) ?_
      ⟨hstopped, hagenda⟩ hrun
    rintro s m s' ⟨hstopped, hagenda⟩ hm
    cases m with
    | work => simp [System.move, work, hagenda] at hm
    | hear a => simp [System.move, hear, hagenda] at hm
    | taskWork number =>
      obtain ⟨t, job, rest, w, -, -, -, rfl⟩ := taskWork_cases hm
      exact ⟨hstopped, hagenda⟩
    | taskHear number a =>
      obtain ⟨t, t', -, -, -, rfl⟩ := taskHear_cases hm
      exact ⟨hstopped, hagenda⟩
    | taskEnd number =>
      obtain ⟨t, -, -, rfl⟩ := taskEnd_cases hm
      exact ⟨hstopped, hagenda⟩
  exact this.1

/-- **Main theorem.** Whatever the monitor hears, let `k` be the failures in a row by its signals.
* While it is reconnecting or has stopped, there are no devices, and no tasks are kept.
* When it sleeps there was a failure, it is reconnecting after `k` failures, and the wait is the one
  for that number.
* When it rests it has stopped exactly if it was told to or `k` is one more than the failures
  allowed; a status that tells of failures tells of `k`.
* Once it has stopped, it has stopped for good.
* By its own work it comes to rest. -/
theorem run_reconnecting (m : MonitorSettings) {moves : List Move}
    (h : (start m).run moves = some s) :
    let k := failuresIn (signals moves)
    ((∃ failures, s.status = .reconnecting failures) ∨ s.status = .stopped →
      s.shared.registry = .empty ∧ s.kept = .empty) ∧
    (∀ wait rest, s.agenda = .sleep wait :: rest →
      0 < k ∧ s.status = .reconnecting k ∧ wait = backoff k m.firstWait m.longestWait) ∧
    (s.isResting = true →
      (s.status = .stopped ↔ .shutdown ∈ signals moves ∨
        ∃ most, m.maxReconnectAttempts = some most ∧ k = most.toNat + 1) ∧
      ∀ failures, s.status = .reconnecting failures → failures = k) ∧
    (s.status = .stopped → ∀ more s', s.run more = some s' → s'.status = .stopped) ∧
    ∃ n s', s.run (List.replicate n .work) = some s' ∧ s'.isResting = true := by
  intro k
  have hcourse : Course s (signals moves) s.agenda := (Course.start m).run h
  have htidy : Tidy s := run_induction (fun h hm => h.move hm) (Tidy.start m) h
  have hsettings : s.settings = m := settings_run h
  refine ⟨fun hstatus => ?_, fun wait rest hagenda => ?_, fun hrest => ?_,
    fun hstopped more s' hmore => ?_, htidy.orderly.settles⟩
  · have hnot : s.status ≠ .connected := by
      rcases hstatus with ⟨failures, hstatus⟩ | hstatus <;> simp [hstatus]
    exact ⟨hcourse.registry_eq_empty hnot, hcourse.kept_eq_empty htidy.follows hnot⟩
  · rw [hagenda] at hcourse
    obtain ⟨hpos, hstatus, hwait⟩ := hcourse.of_sleep
    exact ⟨hpos, hstatus, hsettings ▸ hwait⟩
  · rcases hcourse.of_resting hrest with ⟨hstopped, hover⟩ | ⟨hnot, hopen, hfailures⟩
    · exact ⟨⟨fun _ => hsettings ▸ hover, fun _ => hstopped⟩, by simp [hstopped]⟩
    · refine ⟨⟨fun hstopped => absurd hstopped hnot, fun hover => ?_⟩, hfailures⟩
      exact absurd (show IsOver s.settings (signals moves) from hsettings ▸ hover) hopen.not_isOver
  · exact stopped_run hcourse hstopped hmore

/-- The stream of device lists is opened and a device comes online. Then the stream is lost, and the
next attempt to open it is refused. -/
def lostThenRefused : List Move :=
  [.hear .accepted, .hear (.list [⟨"a", .online⟩]), .work, .work, .hear .lost, .work, .work, .work,
    .work, .hear .woke, .hear .refused, .work]

theorem reconnecting_lostThenRefused :
    ∃ s, (start clientsOnly).run lostThenRefused = some s ∧ s.status = .reconnecting 2 ∧
      s.agenda = [.sleep (.ofMillis 2000), .openStream] ∧
      s.shared.registry = .empty ∧ s.kept = .empty ∧
      Duration.ofMillis 2000 = backoff 2 clientsOnly.firstWait clientsOnly.longestWait ∧
      ∃ n s', s.run (List.replicate n .work) = some s' ∧ s'.isResting = true := by
  have hrun : ((start clientsOnly).run lostThenRefused).map (fun s => (s.status, s.agenda)) =
      some (.reconnecting 2, [.sleep (.ofMillis 2000), .openStream]) := by decide +kernel
  obtain ⟨s, hs, hpair⟩ := Option.map_eq_some_iff.1 hrun
  obtain ⟨hstatus, hagenda⟩ := Prod.mk.inj hpair
  obtain ⟨hempty, hsleep, -, -, hrest⟩ := run_reconnecting clientsOnly hs
  obtain ⟨hregistry, hkept⟩ := hempty (.inl ⟨2, hstatus⟩)
  obtain ⟨-, -, hwait⟩ := hsleep _ _ hagenda
  exact ⟨s, hs, hstatus, hagenda, hregistry, hkept, hwait, hrest⟩

end System

end DebugBridge
