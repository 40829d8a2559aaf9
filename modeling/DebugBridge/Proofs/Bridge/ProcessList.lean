import DebugBridge.Bridge.Live
import DebugBridge.Proofs.Monitor.Enlisting
import DebugBridge.Proofs.Monitor.Steps

/-!
# What comes of a list of processes

When a tracker has heard a list of the processes on its device, it drops the clients whose processes are
not listed, asks the daemon about each listed process that has no client, and makes clients of those
that answer. Here it does so with nobody else at work, and with a daemon that tells of each process always
the same (`Steady`).

The tracker takes its steps one by one (`Live.taskSteps`); what matters of the bridge to them is the
task, what it shares with others and the daemon (`Live.Stands`). Each of its jobs leads from one such
situation to another (`Leads`).

Results:
* `leads_meet`, a process is asked about;
* `leads_follow`, all that is done about a list of processes;
* `taskSteps_clients`, the clients of the device afterwards.
-/

namespace DebugBridge

/-! ## Steps of a task -/

namespace System

variable {s : System} {number : Nat} {t t' : Task} {job : Job} {rest : List Job} {w : Task.Work}
  {a : Answer}

theorem taskWork_of_perform (ht : s.tasks[number]? = some t) (hagenda : t.agenda = job :: rest)
    (hw : t.perform s.settings s.shared job = some w) :
    s.taskWork number = some { s with
      shared := w.shared
      tasks := s.tasks.set number { t with failures := w.failures, agenda := w.jobs ++ rest }
      events := s.events ++ w.events } := by
  simp [taskWork, ht, Task.work, hagenda, hw]

theorem taskHear_of_hear (ht : s.tasks[number]? = some t) (haborted : t.aborted = false)
    (ha : t.hear a = some t') :
    s.taskHear number a = some { s with tasks := s.tasks.set number t' } := by
  simp [taskHear, ht, haborted, ha]

end System

namespace Live

variable {D S : Type} [Daemon D S]

/-- So many steps of one task, while nobody else takes any. -/
def taskSteps (number : Nat) : Nat → Live D S → Option (Live D S)
  | 0, l => some l
  | n + 1, l =>
    (l.bridge.system.tasks[number]?).bind fun t => (l.taskStep number t).bind (taskSteps number n)

/-- A bridge as one of its tasks finds it: the task itself, what the monitor is set to do, what is shared,
how long a command may be silent, and the daemon. -/
structure Stands (l : Live D S) (number : Nat) (t : Task) (m : MonitorSettings) (g : Shared)
    (limit : Duration) (d : D) : Prop where
  task : l.bridge.system.tasks[number]? = some t
  settings : l.bridge.system.settings = m
  shared : l.bridge.system.shared = g
  shellLimit : l.shellLimit = limit
  daemon : l.daemon = d

variable {l l' : Live D S} {number n k : Nat} {t : Task} {m : MonitorSettings} {g : Shared}
  {limit : Duration} {d d' : D} {job : Job} {jobs rest : List Job} {w : Task.Work} {a : Answer}

theorem taskSteps_add (h : l.taskSteps number n = some l') :
    l.taskSteps number (n + k) = l'.taskSteps number k := by
  induction n generalizing l with
  | zero =>
    cases h
    rw [Nat.zero_add]
  | succ n ih =>
    obtain ⟨t, ht, h⟩ := Option.bind_eq_some_iff.1 h
    obtain ⟨l₁, hstep, h⟩ := Option.bind_eq_some_iff.1 h
    rw [Nat.add_right_comm, taskSteps, ht, Option.bind_some, hstep, Option.bind_some, ih h]

theorem taskSteps_one (h : l.Stands number t m g limit d) (hstep : l.taskStep number t = some l') :
    l.taskSteps number 1 = some l' := by
  rw [taskSteps, h.task, Option.bind_some, hstep]
  rfl

/-- A job that does not wait is worked off. -/
theorem Stands.work (h : l.Stands number t m g limit d) (hagenda : t.agenda = job :: rest)
    (hwaits : job.waits = false) (hw : t.perform m g job = some w) :
    ∃ l', l.taskSteps number 1 = some l' ∧
      l'.Stands number { t with failures := w.failures, agenda := w.jobs ++ rest } m w.shared limit
        d := by
  obtain ⟨htask, hsettings, hshared, hlimit, hdaemon⟩ := id h
  have hwork := System.taskWork_of_perform htask hagenda
    (show t.perform l.bridge.system.settings l.bridge.system.shared job = some w by
      rw [hsettings, hshared, hw])
  have hstep : l.taskStep number t = (l.bridge.system.taskWork number).map fun s =>
      { l with bridge := l.bridge.withSystem s } := by
    simp only [taskStep, hagenda, hwaits, Bool.not_false, if_true, take, Bridge.move, Bridge.allows,
      System.move, Option.map_map, Function.comp_def]
  rw [hwork, Option.map_some] at hstep
  exact ⟨_, taskSteps_one h hstep, System.getElem?_tasks_set htask, hsettings, rfl, hlimit, hdaemon⟩

/-- A job that waits is answered. -/
theorem Stands.hear (h : l.Stands number t m g limit d) (hagenda : t.agenda = job :: rest)
    (hwaits : job.waits = true) (haborted : t.aborted = false)
    (hanswer : l.answer number t.serial job = some (a, { l with daemon := d' }))
    (ha : t.hear a = some { t with agenda := jobs ++ rest }) :
    ∃ l', l.taskSteps number 1 = some l' ∧
      l'.Stands number { t with agenda := jobs ++ rest } m g limit d' := by
  obtain ⟨htask, hsettings, hshared, hlimit, -⟩ := id h
  have hhear := System.taskHear_of_hear htask haborted ha
  have hstep : l.taskStep number t = (l.bridge.system.taskHear number a).map fun s =>
      { l with daemon := d', bridge := l.bridge.withSystem s } := by
    simp only [taskStep, hagenda, hwaits, Bool.not_true, Bool.false_eq_true, if_false, haborted,
      hanswer, Option.bind_some, take, Bridge.move, Bridge.allows, System.move, if_true,
      Option.map_map, Function.comp_def]
  rw [hhear, Option.map_some] at hstep
  exact ⟨_, taskSteps_one h hstep, System.getElem?_tasks_set htask, hsettings, hshared, hlimit, rfl⟩

theorem answer_greet (l : Live D S) (number : Nat) (serial : String) (pid : UInt32) :
    l.answer number serial (.greet pid) = (l.ask (Host.handshake serial pid)).map fun (r, l) =>
      (.greeted (r.toOption.getD false), l) := rfl

theorem answer_describe (l : Live D S) (number : Nat) (serial : String) (pid : UInt32) :
    l.answer number serial (.describe pid) =
      (l.ask (Shell.processDescription serial pid l.shellLimit)).map fun (r, l) =>
        (.described (r.toOption.getD none), l) := rfl

omit [Daemon D S] in
theorem ask_of_answer {α : Type} {op : Net D α} {r : Except Error α}
    (h : op l.daemon = (r.mapError .failed, d')) :
    l.ask op = some (r, { l with daemon := d' }) := by
  unfold ask
  rw [h]
  cases r <;> rfl

end Live

/-! ## From one situation to another -/

section Leads

variable {D S : Type} [Daemon D S] (number : Nat) (t : Task) (m : MonitorSettings)
  (limit : Duration)

/-- What a task still has to do, what is shared, and the daemon. -/
structure Situation (D : Type) where
  agenda : List Job
  shared : Shared
  daemon : D

/-- Wherever a task is in the first situation, it gets to the second one by its own steps. -/
def Leads (a b : Situation D) : Prop :=
  ∀ l : Live D S, l.Stands number { t with agenda := a.agenda } m a.shared limit a.daemon →
    ∃ n l', l.taskSteps number n = some l' ∧
      l'.Stands number { t with agenda := b.agenda } m b.shared limit b.daemon

variable {number t m limit} {a b c : Situation D} {g g' : Shared} {d d' : D} {job : Job}
  {jobs rest : List Job} {w : Task.Work} {clients : List Client}

theorem Leads.refl (a : Situation D) : Leads number t m limit a a := fun l h => ⟨0, l, rfl, h⟩

theorem Leads.trans (hab : Leads number t m limit a b) (hbc : Leads number t m limit b c) :
    Leads number t m limit a c := by
  intro l h
  obtain ⟨n, l₁, hn, h₁⟩ := hab l h
  obtain ⟨k, l₂, hk, h₂⟩ := hbc l₁ h₁
  exact ⟨n + k, l₂, (Live.taskSteps_add hn).trans hk, h₂⟩

theorem leads_work (hwaits : job.waits = false)
    (hw : ∀ t' : Task, t'.serial = t.serial → t'.failures = t.failures →
      ∃ events, t'.perform m g job = some ⟨g', events, t.failures, jobs⟩) :
    Leads number t m limit ⟨job :: rest, g, d⟩ ⟨jobs ++ rest, g', d⟩ := by
  intro l h
  obtain ⟨events, hw⟩ := hw { t with agenda := job :: rest } rfl rfl
  obtain ⟨l', hsteps, h'⟩ := h.work rfl hwaits hw
  exact ⟨1, l', hsteps, h'⟩

/-- Ports are given back. -/
theorem leads_releases (clients : List Client) (rest : List Job) (g : Shared) (d : D) :
    Leads number t m limit ⟨Job.releases clients ++ rest, g, d⟩
      ⟨rest, { g with ports := g.ports.releaseAll (clients.filterMap (·.debuggerPort)) }, d⟩ := by
  induction clients generalizing g with
  | nil => exact .refl _
  | cons c clients ih =>
    rw [Job.releases, List.filterMap_cons, List.filterMap_cons]
    cases c.debuggerPort with
    | none => exact ih g
    | some port =>
      refine Leads.trans ?_ (ih { g with ports := g.ports.release port })
      show Leads _ _ _ _ _ ⟨[] ++ (Job.releases clients ++ rest), _, _⟩
      exact leads_work rfl fun t' _ hfailures => ⟨[], by rw [← hfailures]; rfl⟩

/-- A job whose answer comes. -/
theorem leads_hear (answer : Answer) (jobs : List Job) (haborted : t.aborted = false)
    (hwaits : job.waits = true)
    (hanswer : ∀ l : Live D S, l.daemon = d → l.shellLimit = limit →
      l.answer number t.serial job = some (answer, { l with daemon := d' }))
    (hheard : ∀ t' : Task, t'.agenda = job :: rest →
      t'.hear answer = some { t' with agenda := jobs ++ rest }) :
    Leads number t m limit ⟨job :: rest, g, d⟩ ⟨jobs ++ rest, g, d'⟩ := by
  intro l h
  obtain ⟨l', hsteps, h'⟩ :=
    h.hear rfl hwaits haborted (hanswer l h.daemon h.shellLimit) (hheard _ rfl)
  exact ⟨1, l', hsteps, h'⟩

theorem leads_greet {pid : UInt32} {r : Except Error Bool} (haborted : t.aborted = false)
    (hgreet : Host.handshake t.serial pid d = (r.mapError .failed, d')) (g : Shared)
    (rest : List Job) :
    Leads number t m limit ⟨.greet pid :: rest, g, d⟩
      ⟨(if r.toOption = some true then [.describe pid] else []) ++ rest, g, d'⟩ := by
  refine leads_hear (.greeted (r.toOption.getD false)) _ haborted rfl ?_ ?_
  · intro l hdaemon hlimit
    subst hdaemon
    rw [Live.answer_greet, Live.ask_of_answer hgreet]
    rfl
  · intro t' hagenda
    rcases r with e | _ | _ <;> simp [Task.hear, hagenda, Task.heard, Except.toOption]

theorem leads_describe {pid : UInt32} {r : Except Error (Option String)}
    (haborted : t.aborted = false)
    (hdescribe : Shell.processDescription t.serial pid limit d = (r.mapError .failed, d'))
    (g : Shared) (rest : List Job) :
    Leads number t m limit ⟨.describe pid :: rest, g, d⟩
      ⟨.allocate pid r.toOption.join :: rest, g, d'⟩ := by
  refine leads_hear (.described r.toOption.join) [_] haborted rfl ?_ ?_
  · intro l hdaemon hlimit
    subst hdaemon hlimit
    rw [Live.answer_describe, Live.ask_of_answer hdescribe]
    cases r <;> rfl
  · intro t' hagenda
    simp [Task.hear, hagenda, Task.heard]

/-- A client is added, and its port goes back if the device is not known. -/
theorem leads_register (c : Client) (g : Shared) (d : D) (rest : List Job) :
    Leads number t m limit ⟨.register c :: rest, g, d⟩
      ⟨rest, ⟨(g.registry.addClient c).registry,
        if (g.registry.addClient c).result then g.ports
        else g.ports.releaseAll c.debuggerPort.toList⟩, d⟩ := by
  have hadd : Leads number t m limit ⟨.register c :: rest, g, d⟩
      ⟨(if (g.registry.addClient c).result then [] else Job.releases [c]) ++ rest,
        { g with registry := (g.registry.addClient c).registry }, d⟩ :=
    leads_work rfl fun t' _ hfailures => ⟨(g.registry.addClient c).events, by rw [← hfailures]; rfl⟩
  refine hadd.trans ?_
  cases (g.registry.addClient c).result with
  | true => exact .refl _
  | false =>
    have hports : [c].filterMap (·.debuggerPort) = c.debuggerPort.toList := Client.ports_singleton c
    rw [← hports]
    exact leads_releases [c] rest { g with registry := (g.registry.addClient c).registry } d

/-- A process whose name has been asked for becomes a client. -/
theorem leads_enlist (described : UInt32 → Option String) (pid : UInt32) (g : Shared) (d : D)
    (rest : List Job) :
    Leads number t m limit ⟨.allocate pid (described pid) :: rest, g, d⟩
      ⟨rest, g.enlist t.serial described pid, d⟩ := by
  let c : Client := ⟨pid, t.serial, described pid, g.ports.take.1⟩
  have htake : Leads number t m limit ⟨.allocate pid (described pid) :: rest, g, d⟩
      ⟨[.register c] ++ rest, { g with ports := g.ports.take.2 }, d⟩ :=
    leads_work rfl fun t' hserial hfailures => ⟨[], by
      simp only [c]
      rw [← hfailures, ← hserial]
      rfl⟩
  exact htake.trans (leads_register c { g with ports := g.ports.take.2 } d rest)

end Leads

/-! ## A daemon that can be relied on -/

section Steady

variable {D S : Type} [Daemon D S]

/-- A daemon that tells of each of some processes always the same, whatever else it was asked. -/
structure Steady (I : D → Prop) (serial : String) (limit : Duration) (pids : List UInt32)
    (greet : UInt32 → Except Error Bool) (describe : UInt32 → Except Error (Option String)) :
    Prop where
  greets : ∀ pid ∈ pids, ∀ d, I d →
    ∃ d', I d' ∧ Host.handshake serial pid d = ((greet pid).mapError .failed, d')
  describes : ∀ pid ∈ pids, ∀ d, I d →
    ∃ d', I d' ∧ Shell.processDescription serial pid limit d = ((describe pid).mapError .failed, d')

/-- Is a process one to become a client? It is if it answers the greeting, or if no greeting is asked
for. -/
def isIdentified (m : MonitorSettings) (greet : UInt32 → Except Error Bool) (pid : UInt32) : Bool :=
  ! m.jdwpHandshake || (greet pid).toOption == some true

/-- The name of a process, if the daemon tells one. -/
def nameOf (describe : UInt32 → Except Error (Option String)) (pid : UInt32) : Option String :=
  (describe pid).toOption.join

variable {number : Nat} {t : Task} {m : MonitorSettings} {limit : Duration} {I : D → Prop}
  {pids : List UInt32} {greet : UInt32 → Except Error Bool}
  {describe : UInt32 → Except Error (Option String)} {d : D} {pid : UInt32} {rest : List Job}

/-- A process is asked about, and becomes a client if it is one to become one. -/
theorem leads_meet (h : Steady I t.serial limit pids greet describe) (haborted : t.aborted = false)
    (hpid : pid ∈ pids) (hd : I d) (g : Shared) (rest : List Job) :
    ∃ d', I d' ∧ Leads number t m limit
      ⟨(if m.jdwpHandshake then Job.greet else .describe) pid :: rest, g, d⟩
      ⟨rest, if isIdentified m greet pid then g.enlist t.serial (nameOf describe) pid else g, d'⟩ := by
  have hdescribed (d : D) (hd : I d) : ∃ d', I d' ∧ Leads number t m limit
      ⟨.describe pid :: rest, g, d⟩ ⟨rest, g.enlist t.serial (nameOf describe) pid, d'⟩ := by
    obtain ⟨d', hd', hdescribe⟩ := h.describes pid hpid d hd
    exact ⟨d', hd', (leads_describe haborted hdescribe g rest).trans
      (leads_enlist (nameOf describe) pid g d' rest)⟩
  cases hhandshake : m.jdwpHandshake with
  | false =>
    rw [isIdentified, hhandshake]
    exact hdescribed d hd
  | true =>
    obtain ⟨d₁, hd₁, hgreet⟩ := h.greets pid hpid d hd
    have hgreeted : Leads number t m limit _ _ := leads_greet haborted hgreet g rest
    by_cases hok : (greet pid).toOption = some true
    · rw [if_pos hok] at hgreeted
      obtain ⟨d', hd', hname⟩ := hdescribed d₁ hd₁
      refine ⟨d', hd', ?_⟩
      rw [isIdentified, hhandshake, hok]
      exact hgreeted.trans hname
    · rw [if_neg hok] at hgreeted
      refine ⟨d₁, hd₁, ?_⟩
      rw [isIdentified, hhandshake, beq_false_of_ne hok]
      exact hgreeted

/-- The processes are asked about one after the other. -/
theorem leads_meetAll (h : Steady I t.serial limit pids greet describe)
    (haborted : t.aborted = false) {some : List UInt32} (hsome : some ⊆ pids) (hd : I d) (g : Shared)
    (rest : List Job) :
    ∃ d', I d' ∧ Leads number t m limit
      ⟨some.map (if m.jdwpHandshake then Job.greet else .describe) ++ rest, g, d⟩
      ⟨rest, (some.filter (isIdentified m greet)).foldl
        (Shared.enlist t.serial (nameOf describe)) g, d'⟩ := by
  induction some generalizing g d with
  | nil => exact ⟨d, hd, .refl _⟩
  | cons pid some ih =>
    obtain ⟨hpid, hsome⟩ := List.cons_subset.1 hsome
    obtain ⟨d₁, hd₁, hmeet⟩ := leads_meet h haborted hpid hd g
      (some.map (if m.jdwpHandshake then Job.greet else .describe) ++ rest)
    obtain ⟨d', hd', hothers⟩ := ih hsome hd₁
      (if isIdentified m greet pid then g.enlist t.serial (nameOf describe) pid else g)
    refine ⟨d', hd', hmeet.trans ?_⟩
    rw [List.filter_cons]
    split_ifs at hothers ⊢ <;> exact hothers

/-- Clients that are not listed are dropped, and then their ports are given back. -/
theorem leads_keep (pids : List UInt32) (g : Shared) (d : D) (rest : List Job) :
    Leads number t m limit ⟨.retain pids :: rest, g, d⟩ ⟨rest, g.keep t.serial pids, d⟩ := by
  let u := g.registry.retainClients t.serial pids
  have hretain : Leads number t m limit ⟨.retain pids :: rest, g, d⟩
      ⟨Job.releases u.result ++ rest, { g with registry := u.registry }, d⟩ :=
    leads_work rfl fun t' hserial hfailures => ⟨u.events, by
      simp only [u]
      rw [← hfailures, ← hserial]
      rfl⟩
  exact hretain.trans (leads_releases u.result rest { g with registry := u.registry } d)

/-- All that is done about a list of processes. -/
theorem leads_follow (h : Steady I t.serial limit pids greet describe)
    (haborted : t.aborted = false) (hd : I d) (g : Shared) (rest : List Job) :
    ∃ d', I d' ∧ Leads number t m limit ⟨.retain pids :: .survey pids :: rest, g, d⟩
      ⟨rest, g.follow t.serial (isIdentified m greet) (nameOf describe) pids, d'⟩ := by
  let kept := g.keep t.serial pids
  let jobs := (kept.strangers t.serial pids).map (if m.jdwpHandshake then Job.greet else .describe)
  have hsurvey : Leads number t m limit ⟨.survey pids :: rest, kept, d⟩ ⟨jobs ++ rest, kept, d⟩ :=
    leads_work rfl fun t' hserial hfailures => ⟨[], by
      simp only [jobs]
      rw [← hfailures, ← hserial]
      rfl⟩
  obtain ⟨d', hd', hmeet⟩ := leads_meetAll h haborted
    (List.filter_sublist.subset : kept.strangers t.serial pids ⊆ pids) hd kept rest
  exact ⟨d', hd', (leads_keep pids g d _).trans (hsurvey.trans hmeet)⟩

/-- A task that has heard a list of processes gets done with it. A known device then has those of its
clients that are listed, as they were, and behind them one more for each listed process that was no client
and can be identified, with the name that the daemon tells. Nothing else of it is different, nor is
another device. For a device that is not known nothing is, and no port is held that was not. -/
theorem taskSteps_clients {l : Live D S}
    (h : Steady I t.serial l.shellLimit pids greet describe) (hd : I l.daemon)
    (ht : l.bridge.system.tasks[number]? = some t) (haborted : t.aborted = false)
    (hagenda : t.agenda = .retain pids :: .survey pids :: rest)
    (hports : l.bridge.system.shared.ports.Sound) :
    ∃ n l', l.taskSteps number n = some l' ∧
      l'.bridge.system.tasks[number]? = some { t with agenda := rest } ∧
      let before := l.bridge.system.shared
      let after := l'.bridge.system.shared
      (∀ r, before.registry.records.get? t.serial = some r → ∃ new : List Client,
        after.registry.records.get? t.serial = some { r with
          clients := r.clients.filter (fun c => pids.contains c.pid) ++ new } ∧
        new.map Client.about =
          (pids.filter fun pid => isIdentified l.bridge.system.settings greet pid &&
            ! (r.clients.map (·.pid)).contains pid).eraseDups.map
              fun pid => (pid, t.serial, nameOf describe pid)) ∧
      (∀ serial ≠ t.serial,
        after.registry.records.get? serial = before.registry.records.get? serial) ∧
      (before.registry.records.get? t.serial = none → after.registry = before.registry ∧
        ∀ port, after.ports.isHeld port = before.ports.isHeld port) := by
  have hl : l.Stands number { t with agenda := .retain pids :: .survey pids :: rest }
      l.bridge.system.settings l.bridge.system.shared l.shellLimit l.daemon := by
    rw [← hagenda]
    exact ⟨ht, rfl, rfl, rfl, rfl⟩
  obtain ⟨d', -, hleads⟩ := leads_follow h haborted hd l.bridge.system.shared rest
  obtain ⟨n, l', hsteps, hl'⟩ := hleads l hl
  refine ⟨n, l', hsteps, hl'.task, ?_, ?_, ?_⟩
  all_goals rw [hl'.shared]
  · exact fun r hr => Shared.get?_follow hr
  · exact fun serial hserial => Shared.get?_follow_of_ne hserial
  · exact fun hunknown => ⟨(Shared.follow_of_unknown hports hunknown 0).1,
      fun port => (Shared.follow_of_unknown hports hunknown port).2⟩

/-- Two grants and a greeting, whatever is asked. -/
def greetingStream : Stream := ⟨okayToken, [okayToken, Host.greeting], .closed⟩

theorem Net.map_apply {α β : Type} (f : α → β) (op : Net D α) (d : D) :
    (f <$> op) d = ((op d).1.map f, (op d).2) := by
  simp only [Functor.map, ExceptT.map, ExceptT.mk, Bind.bind, StateT.bind]
  rcases op d with ⟨_ | a, d'⟩ <;> rfl

/-- With a daemon that sends these, each process answers its greeting, and has what comes after the first
grant for its name. -/
theorem steady_greetingStream :
    Steady (fun d : Script => d.supply = some greetingStream) "s" .zero [8, 7, 7]
      (fun _ => .ok true) fun _ => .ok (some "OKAYJDWP-Handshake") where
  greets pid hpid := by
    rintro ⟨address, _, told, reached⟩ rfl
    obtain rfl | rfl : pid = 8 ∨ pid = 7 := by simpa using hpid
    all_goals exact ⟨_, rfl, rfl⟩
  describes pid hpid := by
    rintro ⟨address, _, told, reached⟩ rfl
    let d : Script := ⟨address, some greetingStream, told, reached⟩
    let command := s!"cat /proc/{pid.toNat}/cmdline"
    let output : Stream := ⟨[], [okayToken, Host.greeting] ++ [[]], .closed⟩
    obtain ⟨d', hd', hconverse⟩ : ∃ d' : Script, d'.supply = some greetingStream ∧
        Net.converse (Call.requestFor "s" (Shell.service "s" command)) d =
          (.ok ((), .closed, output), d') := by
      obtain rfl | rfl : pid = 8 ∨ pid = 7 := by simpa using hpid
      all_goals exact ⟨_, rfl, rfl⟩
    have hreads : output.reads Shell.readSize = [okayToken, Host.greeting] := by
      rw [Stream.reads_append_nil]
      exact Stream.reads_of_chunks (by decide) .closed
    have hpump : Shell.pump .collecting .empty [] .closed [okayToken, Host.greeting] =
        (["OKAYJDWP-Handshake"], .complete) := by decide
    have houtput : Shell.output "s" command .zero .collecting [] d =
        (.ok ["OKAYJDWP-Handshake"], d') := by
      simp only [Shell.output, Shell.run, hconverse, hreads, output, hpump]
      rfl
    have hname : processName (Text.join "\n" ["OKAYJDWP-Handshake"]) =
        some "OKAYJDWP-Handshake" := by decide
    refine ⟨d', hd', ?_⟩
    rw [Shell.processDescription, Net.map_apply, houtput]
    exact congrArg (fun name => (Except.ok name, d')) hname

/-- A tracker has heard of processes 8 and 7, and of 7 once more. Process 8 has been a client before, and
process 9, which is one no longer. -/
theorem taskSteps_clients_greetingStream :
    let old : Client := ⟨8, "s", none, none⟩
    let r : Record := { Record.fresh .online with clients := [⟨9, "s", none, none⟩, old] }
    let t : Task := { Task.tracker "s" with
      agenda := [.retain [8, 7, 7], .survey [8, 7, 7], .checkAfterList] }
    let l : Live Script Ending :=
      { bridge := ⟨{ System.start Settings.standard.monitor with
          shared := ⟨⟨Dict.empty.insert "s" r⟩, .new 0⟩
          tasks := [t] }, .new, .empty, .running⟩
        daemon := .saying "" greetingStream
        streams := []
        console := fun _ => none
        shellLimit := .zero
        patience := .zero }
    t.aborted = false ∧ l.bridge.system.shared.ports.Sound ∧
      ∃ n l' c, l.taskSteps 0 n = some l' ∧
        l'.bridge.system.tasks[0]? = some { t with agenda := [.checkAfterList] } ∧
        l'.bridge.system.shared.registry.records.get? "s" = some { r with clients := [old, c] } ∧
        c.about = (7, "s", some "OKAYJDWP-Handshake") := by
  intro old r t l
  have hports : l.bridge.system.shared.ports.Sound := .new 0
  have ht : l.bridge.system.tasks[0]? = some t := rfl
  have hsupply : l.daemon.supply = some greetingStream := rfl
  obtain ⟨n, l', hsteps, htask, hknown, -, -⟩ :=
    taskSteps_clients steady_greetingStream hsupply ht rfl rfl hports
  obtain ⟨new, hrecord, hnew⟩ := hknown r (by rfl)
  have hone : new.map Client.about = [(7, "s", some "OKAYJDWP-Handshake")] := hnew.trans (by decide)
  obtain ⟨c, rfl, hc⟩ := List.map_eq_singleton_iff.1 hone
  exact ⟨rfl, hports, n, l', c, hsteps, htask, hrecord, hc⟩

end Steady

end DebugBridge
