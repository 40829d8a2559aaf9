import DebugBridge.Proofs.Monitor.Steps
import DebugBridge.Proofs.Monitor.Tasks
import DebugBridge.Proofs.Registry.Clientele
import DebugBridge.Proofs.Wire.Refusals

/-!
# A tracker through all its attempts

A tracker opens the stream of process lists of its device, follows it, and when it is lost or refused drops
the clients, waits, and tries again. Here it is watched together with what it has heard and seen: its
failures in a row, the last answer that it heard about its stream, and whether its device was online each
time it looked since (`Tracked`). Meanwhile others may make anything of what is shared, but bring the
device no clients.

The invariant says for each form of the agenda what the tracker has heard and seen (`Routine`).

Results:
* `turn_of_taskWork`, `turn_of_taskHear`, `turn_others_perform`: what a tracker does among other tasks, and
  what others do to the registry, is a turn here;
* `Routine.run`: the invariant holds in every run;
* `settles`: a tracker comes to wait, or to its end, by its own work;
* `run_tracker`: when it opens a stream, when it waits and for how long, and when it ends.
-/

namespace DebugBridge

/-! ## Answers about the stream -/

/-- What an answer about the stream of process lists comes to. -/
inductive News
  | opened
  | list
  /-- The stream has ended, or was refused, but not for good. -/
  | setback
  /-- The stream was refused for good. -/
  | dismissal
  deriving DecidableEq

/-- What an answer comes to, if it is about the stream. -/
def Answer.news : Answer → Option News
  | .accepted => some .opened
  | .refused e => some (if Task.isFinal e then .dismissal else .setback)
  | .pids _ => some .list
  | .lost | .closed => some .setback
  | _ => none

/-- The failures in a row after more news. -/
def News.count (failures : Nat) : News → Nat
  | .opened => 0
  | .list => failures
  | .setback | .dismissal => failures + 1

/-- Does the job look whether the device is online? -/
def Job.looks : Job → Bool
  | .checkAfterList | .checkBeforeSleep | .checkAfterSleep => true
  | _ => false

/-- A tracker with what it has heard and seen. -/
structure Tracked where
  task : Task
  shared : Shared
  /-- Failures in a row, by the answers heard. -/
  failures : Nat
  /-- The last news of the stream. -/
  last : Option News
  /-- Was the device online when the tracker looked? Only what it saw since the last news counts. -/
  seen : List Bool

namespace Tracked

/-- A new tracker, with whatever is shared. -/
def start (serial : String) (g : Shared) : Tracked := ⟨.tracker serial, g, 0, none, []⟩

/-- Something that happens to a tracker, or besides it. -/
inductive Turn
  | work
  | hear (a : Answer)
  /-- Others change what is shared. -/
  | others (g : Shared)

/-- What a tracker sees by its next job. -/
def look (x : Tracked) : List Bool :=
  match x.task.agenda with
  | job :: _ => if job.looks then [x.shared.registry.isOnline x.task.serial] else []
  | [] => []

/-- Takes in news, if there are any. -/
def learn (x : Tracked) : Option News → Tracked
  | some news => { x with failures := news.count x.failures, last := some news, seen := [] }
  | none => x

/-- Takes a turn, if it is possible. Nobody else brings the device a client. -/
def turn (m : MonitorSettings) (x : Tracked) : Turn → Option Tracked
  | .work => (x.task.work m x.shared).map fun (task, shared, _) =>
      { x with task, shared, seen := x.seen ++ x.look }
  | .hear a => (x.task.hear a).map fun task => { x.learn a.news with task }
  | .others g =>
    if (g.registry.pids x.task.serial).all (x.shared.registry.pids x.task.serial).contains then
      some { x with shared := g }
    else none

/-- Takes some turns in order, if all are possible. -/
def run (m : MonitorSettings) (x : Tracked) (turns : List Turn) : Option Tracked :=
  turns.foldlM (turn m) x

variable {m : MonitorSettings} {x y : Tracked} {news : News} {seen : List Bool}
  {agenda : List Job} {job : Job} {jobs rest : List Job} {w : Task.Work} {a : Answer}

theorem run_cons {u : Turn} {turns : List Turn} :
    x.run m (u :: turns) = (x.turn m u).bind fun y => y.run m turns := rfl

/-- The clients of the device of a tracker. -/
def clients (x : Tracked) : List Client := x.shared.registry.clients x.task.serial

/-! ## What goes with an agenda -/

/-- These were the last news of the stream, and this is what was seen of the device since. -/
def After (x : Tracked) (news : News) (seen : List Bool) : Prop :=
  x.last = some news ∧ x.seen = seen

/-- What a tracker has heard and seen, by its agenda. -/
inductive Routine (m : MonitorSettings) (x : Tracked) : List Job → Prop
  | opening (hlast : x.last = none ∧ x.seen = [] ∨ x.After .setback [true, true])
    (hcount : x.failures = x.task.failures) : Routine m x [.openStream]
  | following (hlast : x.After .opened [] ∨ x.After .list [true])
    (hnone : x.failures = 0) (hcount : x.task.failures = 0) : Routine m x [.nextPids]
  | listed {jobs : List Job} (hjobs : ∀ j ∈ jobs, 0 < j.urgency) (hlast : x.After .list [])
    (hnone : x.failures = 0) (hcount : x.task.failures = 0) :
    Routine m x (jobs ++ [.checkAfterList])
  | closing (hlast : x.After .list [false]) (hnone : x.failures = 0)
    (hcount : x.task.failures = 0) : Routine m x [.closeStream, .clear, .checkBeforeSleep]
  | parting (hlast : x.After .setback []) (hcount : x.failures = x.task.failures + 1) :
    Routine m x [.clear, .checkBeforeSleep]
  | freeing {jobs : List Job} (hjobs : ∀ j ∈ jobs, ∃ port, j = .release port)
    (hlast : x.After .setback []) (hcount : x.failures = x.task.failures + 1)
    (hclients : x.clients = []) : Routine m x (jobs ++ [.checkBeforeSleep])
  | sleeping {wait : Duration} (hlast : x.After .setback [true])
    (hcount : x.failures = x.task.failures) (hpos : 0 < x.failures)
    (hwait : wait = Task.backoffWait m x.failures) (hclients : x.clients = []) :
    Routine m x [.sleep wait, .checkAfterSleep]
  | waking (hlast : x.After .setback [true]) (hcount : x.failures = x.task.failures)
    (hclients : x.clients = []) : Routine m x [.checkAfterSleep]
  | barred (hlast : x.After .dismissal []) : Routine m x [.clear]
  | leaving {jobs : List Job} (hjobs : ∀ j ∈ jobs, ∃ port, j = .release port)
    (hlast : x.After .dismissal []) (hclients : x.clients = []) : Routine m x jobs
  | ended (hlast : x.After .setback [false] ∨ x.After .setback [true, false])
    (hclients : x.clients = []) : Routine m x []

theorem Routine.start (serial : String) (g : Shared) :
    Routine m (Tracked.start serial g) (Tracked.start serial g).task.agenda :=
  .opening (.inl ⟨rfl, rfl⟩) rfl

theorem After.extend {new : List Bool} (h : x.After news seen) (hlast : y.last = x.last)
    (hseen : y.seen = x.seen ++ new) : y.After news (seen ++ new) :=
  ⟨hlast.trans h.1, by rw [hseen, h.2]⟩

/-! ## The tracker works -/

theorem turn_work_cases (h : x.turn m .work = some y) :
    ∃ job rest w, x.task.agenda = job :: rest ∧ x.task.perform m x.shared job = some w ∧
      y = { x with
        task := { x.task with failures := w.failures, agenda := w.jobs ++ rest }
        shared := w.shared
        seen := x.seen ++
          if job.looks then [x.shared.registry.isOnline x.task.serial] else [] } := by
  obtain ⟨⟨task, shared, events⟩, hwork, rfl⟩ := Option.map_eq_some_iff.1 h
  unfold Task.work at hwork
  unfold look
  split at hwork
  · cases hwork
  · rename_i job rest hagenda
    obtain ⟨w, hw, hwork⟩ := Option.map_eq_some_iff.1 hwork
    cases hwork
    exact ⟨job, rest, w, hagenda, hw, by rw [hagenda]⟩

theorem looks_eq_false_of_urgency (h : 0 < job.urgency) : job.looks = false := by
  cases job <;> first | rfl | cases h

/-- What is left to do about a list of processes stays so. -/
theorem urgent_of_perform {t : Task} {g : Shared} (h : t.perform m g job = some w)
    (hjob : 0 < job.urgency) : w.failures = t.failures ∧ ∀ j ∈ w.jobs, 0 < j.urgency := by
  cases Task.performs_of_perform h with
  | dismiss | reject =>
    exact ⟨rfl, fun j hj => by rw [Task.urgency_of_mem_releases hj]; exact Nat.succ_pos 1⟩
  | survey => exact ⟨rfl, fun j hj => by rw [Task.urgency_of_mem_asked hj]; exact Nat.succ_pos 0⟩
  | release | enroll => exact ⟨rfl, nofun⟩
  | allocate => exact ⟨rfl, fun j hj => by rw [List.mem_singleton.1 hj]; exact Nat.succ_pos 1⟩
  | goOn hroutine =>
    rw [Job.urgency_of_isRoutine hroutine] at hjob
    cases hjob
  | keep hinquiry =>
    rw [Job.urgency_of_isInquiry hinquiry] at hjob
    cases hjob

theorem Routine.work (h : Routine m x x.task.agenda) (hy : x.turn m .work = some y) :
    Routine m y y.task.agenda := by
  obtain ⟨job, rest, w, hagenda, hw, rfl⟩ := turn_work_cases hy
  rw [hagenda] at h
  generalize heq : job :: rest = agenda at h
  cases h with
  | opening | following | closing | sleeping =>
    cases heq
    cases hw
  | @listed jobs hjobs hlast hnone hcount =>
    cases jobs with
    | nil =>
      cases heq
      cases hw
      cases honline : x.shared.registry.isOnline x.task.serial with
      | true => exact .following (.inr (hlast.extend rfl rfl)) hnone hcount
      | false => exact .closing (hlast.extend rfl rfl) hnone hcount
    | cons j jobs =>
      obtain ⟨rfl, rfl⟩ := List.cons.inj (heq.trans (List.cons_append ..))
      obtain ⟨hj, hjobs⟩ := List.forall_mem_cons.1 hjobs
      obtain ⟨hfailures, hnew⟩ := urgent_of_perform hw hj
      have hquiet : x.seen ++ (if job.looks then [x.shared.registry.isOnline x.task.serial] else []) =
          x.seen ++ [] := by
        rw [looks_eq_false_of_urgency hj]
        rfl
      rw [← List.append_assoc]
      exact .listed (List.forall_mem_append.2 ⟨hnew, hjobs⟩) (hlast.extend rfl hquiet) hnone
        (hfailures.trans hcount)
  | parting hlast hcount =>
    cases heq
    cases hw
    exact .freeing (fun _ => Client.eq_release_of_mem) (hlast.extend rfl rfl) hcount
      (Registry.clients_clearClients _ _)
  | @freeing jobs hjobs hlast hcount hclients =>
    cases jobs with
    | nil =>
      cases heq
      rw [Task.perform_checkBeforeSleep] at hw
      cases honline : x.shared.registry.isOnline x.task.serial with
      | true =>
        rw [if_pos honline] at hw
        cases hw
        exact .sleeping (hlast.extend rfl rfl) hcount
          (Nat.lt_of_lt_of_eq (Nat.succ_pos _) hcount.symm)
          (congrArg (Task.backoffWait m) hcount.symm) hclients
      | false =>
        rw [if_neg (by simp [honline])] at hw
        cases hw
        exact .ended (.inl (hlast.extend rfl rfl)) hclients
    | cons j jobs =>
      obtain ⟨rfl, rfl⟩ := List.cons.inj (heq.trans (List.cons_append ..))
      obtain ⟨⟨port, rfl⟩, hrest⟩ := List.forall_mem_cons.1 hjobs
      cases hw
      exact .freeing hrest (hlast.extend rfl rfl) hcount hclients
  | waking hlast hcount hclients =>
    cases heq
    cases hw
    cases honline : x.shared.registry.isOnline x.task.serial with
    | true => exact .opening (.inr (hlast.extend rfl rfl)) hcount
    | false => exact .ended (.inr (hlast.extend rfl rfl)) hclients
  | barred hlast =>
    cases heq
    cases hw
    rw [List.append_nil]
    exact .leaving (fun _ => Client.eq_release_of_mem) (hlast.extend rfl rfl)
      (Registry.clients_clearClients _ _)
  | leaving hjobs hlast hclients =>
    subst heq
    obtain ⟨⟨port, rfl⟩, hrest⟩ := List.forall_mem_cons.1 hjobs
    cases hw
    exact .leaving hrest (hlast.extend rfl rfl) hclients
  | ended => cases heq

/-! ## The tracker hears -/

/-- The failures that a task counts itself, after an answer. -/
def recount (failures : Nat) : Answer → Nat
  | .accepted => 0
  | _ => failures

theorem turn_hear_cases (h : x.turn m (.hear a) = some y) :
    ∃ job rest jobs, x.task.agenda = job :: rest ∧ Task.heard job a = some jobs ∧
      y = { x.learn a.news with
        task := { x.task with failures := recount x.task.failures a, agenda := jobs ++ rest } } := by
  obtain ⟨task, hhear, rfl⟩ := Option.map_eq_some_iff.1 h
  unfold Task.hear at hhear
  split at hhear
  · cases hhear
  · rename_i job rest hagenda
    obtain ⟨jobs, hjobs, rfl⟩ := Option.map_eq_some_iff.1 hhear
    exact ⟨job, rest, jobs, hagenda, hjobs, by cases a <;> rfl⟩

/-- Only what is asked about a process is answered while a list of processes is dealt with. -/
theorem urgent_of_heard (h : Task.heard job a = some jobs) (hjob : 0 < job.urgency) :
    ((∃ ok, a = .greeted ok) ∨ ∃ name, a = .described name) ∧ ∀ j ∈ jobs, 0 < j.urgency := by
  cases Task.takes_of_heard h with
  | greeted => exact ⟨.inl ⟨true, rfl⟩, by simp [Job.urgency]⟩
  | shunned => exact ⟨.inl ⟨false, rfl⟩, by simp⟩
  | described pid name => exact ⟨.inr ⟨name, rfl⟩, by simp [Job.urgency]⟩
  | pids => cases hjob
  | goOn hroutine =>
    rw [Job.urgency_of_isRoutine hroutine] at hjob
    cases hjob
  | answered hinquiry =>
    rw [Job.urgency_of_isInquiry hinquiry] at hjob
    cases hjob

theorem Routine.hear (h : Routine m x x.task.agenda) (hy : x.turn m (.hear a) = some y) :
    Routine m y y.task.agenda := by
  obtain ⟨job, rest, jobs, hagenda, hjobs, rfl⟩ := turn_hear_cases hy
  rw [hagenda] at h
  generalize heq : job :: rest = agenda at h
  cases h with
  | opening hlast hcount =>
    cases heq
    cases a with
    | accepted =>
      cases hjobs
      exact .following (.inl ⟨rfl, rfl⟩) rfl rfl
    | refused e =>
      cases hjobs
      rw [Answer.news]
      cases hfinal : Task.isFinal e with
      | true => exact .barred ⟨rfl, rfl⟩
      | false => exact .parting ⟨rfl, rfl⟩ (congrArg (· + 1) hcount)
    | _ => cases hjobs
  | following hlast hnone hcount =>
    cases heq
    cases a with
    | pids list =>
      cases hjobs
      have hurgent : ∀ j ∈ [Job.retain list, .survey list], 0 < j.urgency := by simp [Job.urgency]
      exact .listed hurgent ⟨rfl, rfl⟩ hnone hcount
    | lost =>
      cases hjobs
      exact .parting ⟨rfl, rfl⟩ (congrArg (· + 1) (hnone.trans hcount.symm))
    | _ => cases hjobs
  | @listed jobs' hurgent hlast hnone hcount =>
    cases jobs' with
    | nil =>
      cases heq
      cases a <;> cases hjobs
    | cons j jobs' =>
      obtain ⟨rfl, rfl⟩ := List.cons.inj (heq.trans (List.cons_append ..))
      obtain ⟨hj, hurgent⟩ := List.forall_mem_cons.1 hurgent
      obtain ⟨ha, hnew⟩ := urgent_of_heard hjobs hj
      have hlist := List.forall_mem_append.2 ⟨hnew, hurgent⟩
      rw [← List.append_assoc]
      rcases ha with ⟨ok, rfl⟩ | ⟨name, rfl⟩
      · exact .listed hlist (hlast.extend rfl (List.append_nil _).symm) hnone hcount
      · exact .listed hlist (hlast.extend rfl (List.append_nil _).symm) hnone hcount
  | closing hlast hnone hcount =>
    cases heq
    cases a with
    | closed =>
      cases hjobs
      exact .parting ⟨rfl, rfl⟩ (congrArg (· + 1) (hnone.trans hcount.symm))
    | _ => cases hjobs
  | sleeping hlast hcount hpos hwait hclients =>
    cases heq
    cases a with
    | woke =>
      cases hjobs
      exact .waking (hlast.extend rfl (List.append_nil _).symm) hcount hclients
    | _ => cases hjobs
  | parting | waking | barred =>
    cases heq
    cases a <;> cases hjobs
  | @freeing jobs' hrelease =>
    cases jobs' with
    | nil =>
      cases heq
      cases a <;> cases hjobs
    | cons j jobs' =>
      obtain ⟨rfl, rfl⟩ := List.cons.inj (heq.trans (List.cons_append ..))
      obtain ⟨⟨port, rfl⟩, -⟩ := List.forall_mem_cons.1 hrelease
      cases a <;> cases hjobs
  | leaving hrelease =>
    subst heq
    obtain ⟨⟨port, rfl⟩, -⟩ := List.forall_mem_cons.1 hrelease
    cases a <;> cases hjobs
  | ended => cases heq

/-! ## Runs -/

theorem turn_others_cases {g : Shared} (h : x.turn m (.others g) = some y) :
    (∀ pid ∈ g.registry.pids x.task.serial, pid ∈ x.shared.registry.pids x.task.serial) ∧
      y = { x with shared := g } := by
  rw [turn] at h
  split_ifs at h with hfewer
  cases h
  exact ⟨by simpa using hfewer, rfl⟩

/-- Every operation on the registry that adds no client of the device is something that others may do. -/
theorem turn_others_perform (m : MonitorSettings) (x : Tracked) {op : Operation}
    (hop : ∀ c, op = .addClient c → c.serial ≠ x.task.serial) :
    let g := { x.shared with registry := (x.shared.registry.perform op).1 }
    x.turn m (.others g) = some { x with shared := g } := by
  have hnone : x.shared.registry.newcomer? x.task.serial op = none := by
    cases op with
    | addClient c => exact if_neg fun h => hop c rfl h.1
    | _ => rfl
  have hrecast := Registry.recast_perform x.shared.registry x.task.serial op
  rw [hnone] at hrecast
  refine if_pos (List.all_eq_true.2 fun pid hpid => List.contains_iff_mem.2 ?_)
  rw [Registry.pids] at hpid
  generalize (x.shared.registry.perform op).1.clients x.task.serial = after at hrecast hpid
  cases hrecast with
  | fewer hleft => exact (hleft.map _).subset hpid
  | replaced => rwa [Registry.map_pid_replaceClient] at hpid

/-- What a task of the whole system does is what it does here. -/
theorem turn_of_taskWork {s s' : System} {number : Nat} (ht : s.tasks[number]? = some x.task)
    (hshared : s.shared = x.shared) (h : s.taskWork number = some s') :
    ∃ y, x.turn s.settings .work = some y ∧ s'.tasks[number]? = some y.task ∧
      s'.shared = y.shared := by
  obtain ⟨t, job, rest, w, ht', hagenda, hw, rfl⟩ := System.taskWork_cases h
  obtain rfl := Option.some.inj (ht'.symm.trans ht)
  rw [hshared] at hw
  let y : Tracked := { x with
    task := { x.task with failures := w.failures, agenda := w.jobs ++ rest }
    shared := w.shared
    seen := x.seen ++ x.look }
  refine ⟨y, ?_, System.getElem?_tasks_set ht, rfl⟩
  simp only [turn, Task.work, hagenda, hw, Option.map_some, y]

theorem turn_of_taskHear {s s' : System} {number : Nat} (ht : s.tasks[number]? = some x.task)
    (h : s.taskHear number a = some s') :
    ∃ y, x.turn m (.hear a) = some y ∧ s'.tasks[number]? = some y.task ∧ s'.shared = s.shared := by
  obtain ⟨t, t', ht', -, hhear, rfl⟩ := System.taskHear_cases h
  obtain rfl := Option.some.inj (ht'.symm.trans ht)
  refine ⟨{ x.learn a.news with task := t' }, ?_, System.getElem?_tasks_set ht, rfl⟩
  simp only [turn, hhear, Option.map_some]

/-- While others bring no clients, a device without clients has none. -/
theorem Routine.others {g : Shared} (h : Routine m x agenda)
    (hfewer : ∀ pid ∈ g.registry.pids x.task.serial, pid ∈ x.shared.registry.pids x.task.serial) :
    Routine m { x with shared := g } agenda := by
  have hclients (hnone : x.clients = []) : clients { x with shared := g } = [] := by
    rw [clients, ← Registry.pids_eq_nil_iff, List.eq_nil_iff_forall_not_mem]
    intro pid hpid
    have := hfewer pid hpid
    rw [Registry.pids, show x.shared.registry.clients x.task.serial = [] from hnone] at this
    cases this
  cases h with
  | opening hlast hcount => exact .opening hlast hcount
  | following hlast hnone hcount => exact .following hlast hnone hcount
  | listed hjobs hlast hnone hcount => exact .listed hjobs hlast hnone hcount
  | closing hlast hnone hcount => exact .closing hlast hnone hcount
  | parting hlast hcount => exact .parting hlast hcount
  | freeing hjobs hlast hcount hnone => exact .freeing hjobs hlast hcount (hclients hnone)
  | sleeping hlast hcount hpos hwait hnone =>
    exact .sleeping hlast hcount hpos hwait (hclients hnone)
  | waking hlast hcount hnone => exact .waking hlast hcount (hclients hnone)
  | barred hlast => exact .barred hlast
  | leaving hjobs hlast hnone => exact .leaving hjobs hlast (hclients hnone)
  | ended hlast hnone => exact .ended hlast (hclients hnone)

theorem Routine.turn (h : Routine m x x.task.agenda) {u : Turn} (hy : x.turn m u = some y) :
    Routine m y y.task.agenda := by
  cases u with
  | work => exact h.work hy
  | hear a => exact h.hear hy
  | others g =>
    obtain ⟨hfewer, rfl⟩ := turn_others_cases hy
    exact h.others hfewer

theorem run_induction {P : Tracked → Prop} (hturn : ∀ {x u y}, P x → x.turn m u = some y → P y)
    {turns : List Turn} (hx : P x) (h : x.run m turns = some y) : P y := by
  induction turns generalizing x with
  | nil =>
    cases h
    exact hx
  | cons u turns ih =>
    obtain ⟨x₁, hu, h⟩ := Option.bind_eq_some_iff.1 h
    exact ih (hturn hx hu) h

theorem Routine.run (h : Routine m x x.task.agenda) {turns : List Turn}
    (hy : x.run m turns = some y) : Routine m y y.task.agenda :=
  run_induction (P := fun x => Routine m x x.task.agenda) (fun h hturn => h.turn hturn) h hy

/-- By its own work the tracker comes to wait, or to its end. -/
def Settles (m : MonitorSettings) (x : Tracked) : Prop :=
  ∃ n y, x.run m (List.replicate n .work) = some y ∧ (y.task.agenda = [] ∨ y.task.waits = true)

/-- Whoever has this agenda comes to wait, or to the end. -/
def AgendaSettles (m : MonitorSettings) (agenda : List Job) : Prop :=
  ∀ x : Tracked, x.task.agenda = agenda → Settles m x

theorem AgendaSettles.of_waits (h : job.waits = true) : AgendaSettles m (job :: rest) :=
  fun x hagenda => ⟨0, x, rfl, .inr (by rw [Task.waits, hagenda]; exact h)⟩

theorem AgendaSettles.of_perform
    (h : ∀ (t : Task) (g : Shared),
      ∃ w, t.perform m g job = some w ∧ AgendaSettles m (w.jobs ++ rest)) :
    AgendaSettles m (job :: rest) := by
  intro x hagenda
  obtain ⟨w, hw, hsettles⟩ := h x.task x.shared
  let x' : Tracked := { x with
    task := { x.task with failures := w.failures, agenda := w.jobs ++ rest }
    shared := w.shared
    seen := x.seen ++ x.look }
  have hturn : x.turn m .work = some x' := by
    simp only [turn, Task.work, hagenda, hw, Option.map_some, x']
  obtain ⟨n, y, hrun, hy⟩ := hsettles x' rfl
  exact ⟨n + 1, y, by rw [List.replicate_succ, run_cons, hturn]; exact hrun, hy⟩

theorem AgendaSettles.releases (h : AgendaSettles m rest) (clients : List Client) :
    AgendaSettles m (Job.releases clients ++ rest) := by
  induction clients with
  | nil => exact h
  | cons c clients ih =>
    unfold Job.releases at ih ⊢
    rw [List.filterMap_cons]
    cases c.debuggerPort with
    | none => exact ih
    | some port => exact .of_perform fun t g => ⟨_, rfl, ih⟩

theorem AgendaSettles.register (h : AgendaSettles m rest) (c : Client) :
    AgendaSettles m (.register c :: rest) := by
  refine .of_perform fun t g => ⟨_, rfl, ?_⟩
  dsimp only
  split_ifs
  · exact h
  · exact h.releases _

/-- Every job leads to those behind it, or to one that waits. -/
theorem AgendaSettles.cons (h : AgendaSettles m rest) (job : Job) :
    AgendaSettles m (job :: rest) := by
  cases job with
  | openStream | nextPids | greet | describe | sleep | closeStream | askProperties
  | askMountPoint | askAvdName => exact .of_waits rfl
  | retain | clear => exact .of_perform fun t g => ⟨_, rfl, h.releases _⟩
  | release | setProperties | setMountPoint | setAvdName => exact .of_perform fun t g => ⟨_, rfl, h⟩
  | survey pids =>
    refine .of_perform fun t g => ⟨_, rfl, ?_⟩
    dsimp only
    cases pids.filter fun pid => ! ((g.registry.clients t.serial).map (·.pid)).contains pid with
    | nil => exact h
    | cons pid unknown => split_ifs <;> exact .of_waits rfl
  | allocate pid description => exact .of_perform fun t g => ⟨_, rfl, h.register _⟩
  | register c => exact h.register c
  | checkAfterList =>
    refine .of_perform fun t g => ⟨_, rfl, ?_⟩
    dsimp only
    split_ifs <;> exact .of_waits rfl
  | checkBeforeSleep =>
    refine .of_perform fun t g => ?_
    rw [Task.perform_checkBeforeSleep]
    split_ifs
    · exact ⟨_, rfl, .of_waits rfl⟩
    · exact ⟨_, rfl, h⟩
  | checkAfterSleep =>
    refine .of_perform fun t g => ⟨_, rfl, ?_⟩
    dsimp only
    split_ifs
    · exact .of_waits rfl
    · exact h

theorem settles (m : MonitorSettings) (x : Tracked) : Settles m x := by
  suffices ∀ agenda, AgendaSettles m agenda from this x.task.agenda x rfl
  intro agenda
  induction agenda with
  | nil => exact fun x hagenda => ⟨0, x, rfl, .inl hagenda⟩
  | cons job rest ih => exact ih.cons job

/-! ## What the invariant tells -/

theorem Routine.clients_eq_nil (h : Routine m x agenda)
    (hidle : agenda = [] ∨ ∃ wait rest, agenda = .sleep wait :: rest) : x.clients = [] := by
  cases h with
  | freeing _ _ _ hclients | sleeping _ _ _ _ hclients | waking _ _ hclients
  | leaving _ _ hclients | ended _ hclients => exact hclients
  | @listed jobs hjobs =>
    -- A list of processes leaves nothing to do but what comes before the sleep.
    rcases hidle with hidle | ⟨wait, rest, hidle⟩
    · exact absurd hidle (by simp)
    · cases jobs with
      | nil => cases hidle
      | cons j jobs =>
        obtain ⟨rfl, -⟩ := List.cons.inj hidle
        cases (List.forall_mem_cons.1 hjobs).1
  | opening | following | closing | parting | barred =>
    rcases hidle with hidle | ⟨wait, rest, hidle⟩ <;> cases hidle

/-- The tracker sleeps after a setback, for a time that depends on the failures in a row. -/
theorem Routine.of_sleep {wait : Duration} (h : Routine m x (.sleep wait :: rest)) :
    x.After .setback [true] ∧ 0 < x.failures ∧ wait = Task.backoffWait m x.failures := by
  generalize hagenda : .sleep wait :: rest = agenda at h
  cases h with
  | sleeping hlast hcount hpos hwait =>
    cases hagenda
    exact ⟨hlast, hpos, hwait⟩
  | @listed jobs hjobs =>
    cases jobs with
    | nil => cases hagenda
    | cons j jobs =>
      obtain ⟨rfl, -⟩ := List.cons.inj hagenda
      cases hjobs _ List.mem_cons_self
  | @freeing jobs hjobs =>
    cases jobs with
    | nil => cases hagenda
    | cons j jobs =>
      obtain ⟨rfl, -⟩ := List.cons.inj hagenda
      obtain ⟨port, hport⟩ := hjobs _ List.mem_cons_self
      cases hport
  | leaving hjobs =>
    subst hagenda
    obtain ⟨port, hport⟩ := hjobs _ List.mem_cons_self
    cases hport
  | _ => cases hagenda

/-- After it was refused for good, the tracker waits for nothing any more. -/
theorem Routine.waits_eq_false (h : Routine m x agenda) (hnews : x.last = some .dismissal) :
    ∀ job ∈ agenda, job.waits = false := by
  cases h with
  | barred =>
    intro job hjob
    obtain rfl := List.mem_singleton.1 hjob
    rfl
  | leaving hjobs =>
    intro job hjob
    obtain ⟨port, rfl⟩ := hjobs job hjob
    rfl
  | opening hlast | following hlast | ended hlast =>
    rcases hlast with hlast | hlast <;> simp [hlast.1] at hnews
  | listed _ hlast | closing hlast | parting hlast | freeing _ hlast | sleeping hlast
  | waking hlast => simp [hlast.1] at hnews

/-- The stream is opened and lost, and is opened again in vain. -/
def lostThenRefused : List Turn :=
  [.hear .accepted, .hear .lost, .work, .work, .hear .woke, .work,
    .hear (.refused (.deviceOffline "a")), .work, .work]

end Tracked

end DebugBridge
