import DebugBridge.Monitor.Task
import DebugBridge.Proofs.PortPool
import DebugBridge.Proofs.Registry.Clientele

/-!
# Processes that become clients

A process that becomes a client is given a port, and is added to the clients of its device
(`Shared.enlist`). If the device is not known, the port goes back and nothing is different. If it is
known, the client comes behind the others, or in the place of one that the same process has had: so of
processes that become clients one after the other, each has one client in the end, in the order in which
they were first named.

A tracker that has heard a list of processes drops the clients that are not on it, and then makes clients
of those processes on it that have none and can be identified (`Shared.follow`).

Results:
* `get?_foldl_enlist`: the record of a known device after some processes have become clients;
* `get?_follow`: its record after a list of processes;
* `get?_follow_of_ne`: the records of all other devices are as they were;
* `follow_of_unknown`: for a device that is not known nothing changes.
-/

namespace DebugBridge

namespace Registry

variable {reg : Registry} {serial k : String} {r : Record} {c : Client}
  {kept new clients : List Client} {seen : List UInt32}

/-! ## A client that is added -/

theorem get?_addClient (h : reg.records.get? c.serial = some r) :
    (reg.addClient c).registry.records.get? c.serial =
      some { r with clients := enroll c r.clients } := by
  rw [addClient, get?_edit h, if_pos rfl, record_clientAdded]

theorem get?_addClient_of_ne (hk : k ≠ c.serial) :
    (reg.addClient c).registry.records.get? k = reg.records.get? k := by
  rw [addClient]
  cases h : reg.records.get? c.serial with
  | none => rw [edit_of_unknown _ h]
  | some r => rw [get?_edit h, if_neg hk]

theorem result_addClient (reg : Registry) (c : Client) :
    (reg.addClient c).result = (reg.records.get? c.serial).isSome := by
  rw [addClient]
  cases h : reg.records.get? c.serial with
  | none => rw [edit_of_unknown _ h]; rfl
  | some r => simp only [result_edit _ h, Option.isSome_some]

theorem registry_addClient_of_unknown (h : reg.records.get? c.serial = none) :
    (reg.addClient c).registry = reg := by
  rw [addClient, edit_of_unknown _ h]

theorem replaceClient_append (h : c.pid ∉ kept.map (·.pid)) :
    replaceClient c (kept ++ new) = kept ++ replaceClient c new := by
  induction kept with
  | nil => rfl
  | cons x kept ih =>
    simp only [List.map_cons, List.mem_cons, not_or] at h
    rw [List.cons_append, replaceClient, if_neg (Ne.symm h.1), ih h.2, List.cons_append]

end Registry

/-- What a client tells of its process and its device; its port is another matter. -/
def Client.about (c : Client) : UInt32 × String × Option String :=
  (c.pid, c.serial, c.description)

namespace Registry

variable {reg : Registry} {serial k : String} {r : Record} {c : Client}
  {kept new clients : List Client} {seen : List UInt32} {described : UInt32 → Option String}

/-- A client in the place of one that tells the same. -/
theorem map_about_replaceClient (h : ∀ x ∈ clients, x.pid = c.pid → x.about = c.about) :
    (replaceClient c clients).map Client.about = clients.map Client.about := by
  induction clients with
  | nil => rfl
  | cons x clients ih =>
    obtain ⟨hx, hclients⟩ := List.forall_mem_cons.1 h
    rw [replaceClient]
    split_ifs with hpid
    · rw [List.map_cons, List.map_cons, hx hpid]
    · rw [List.map_cons, List.map_cons, ih hclients]

/-- A process that was named before keeps its place among the new clients, and another one comes behind
them. -/
theorem enroll_behind (hkept : c.pid ∉ kept.map (·.pid))
    (hc : c.about = (c.pid, serial, described c.pid))
    (hnew : new.map Client.about = seen.map fun pid => (pid, serial, described pid)) :
    ∃ new', enroll c (kept ++ new) = kept ++ new' ∧
      new'.map Client.about = (if c.pid ∈ seen then seen else seen ++ [c.pid]).map
        fun pid => (pid, serial, described pid) := by
  have hpids : new.map (·.pid) = seen := by
    have := congrArg (List.map Prod.fst) hnew
    simpa [Client.about, Function.comp_def] using this
  have hmem : c.pid ∈ (kept ++ new).map (·.pid) ↔ c.pid ∈ seen := by
    rw [List.map_append, List.mem_append, hpids]
    exact or_iff_right hkept
  unfold enroll
  by_cases hseen : c.pid ∈ seen
  · refine ⟨replaceClient c new, ?_, ?_⟩
    · rw [if_pos (hmem.2 hseen), replaceClient_append hkept]
    · rw [if_pos hseen, map_about_replaceClient fun x hx hpid => ?_, hnew]
      obtain ⟨pid, -, hpid'⟩ := List.mem_map.1 (hnew ▸ List.mem_map_of_mem hx : x.about ∈ _)
      obtain rfl : pid = x.pid := congrArg Prod.fst hpid'
      rw [hc, ← hpid', hpid]
  · refine ⟨new ++ [c], ?_, ?_⟩
    · rw [if_neg fun h => hseen (hmem.1 h), List.append_assoc]
    · rw [if_neg hseen, List.map_append, List.map_append, hnew]
      simp [hc]

end Registry

/-! ## Processes that become clients -/

/-- What is shared after a process of a device has become a client, or was to become one of a device that
is not known. -/
def Shared.enlist (serial : String) (described : UInt32 → Option String) (g : Shared)
    (pid : UInt32) : Shared :=
  let c : Client := ⟨pid, serial, described pid, g.ports.take.1⟩
  let u := g.registry.addClient c
  ⟨u.registry, if u.result then g.ports.take.2 else g.ports.take.2.releaseAll g.ports.take.1.toList⟩

namespace Shared

variable {serial other : String} {described : UInt32 → Option String} {g : Shared} {pid : UInt32}
  {pids seen : List UInt32} {r : Record} {kept new : List Client}

theorem eraseDups_append_singleton (seen : List UInt32) (pid : UInt32) :
    (seen ++ [pid]).eraseDups =
      if pid ∈ seen.eraseDups then seen.eraseDups else seen.eraseDups ++ [pid] := by
  rw [List.eraseDups_append]
  by_cases h : pid ∈ seen <;> simp [List.removeAll, List.eraseDups_cons, h]

/-- The record of a known device after some of its processes have become clients that were none before,
by induction on these processes; `seen` are those before them. -/
theorem get?_foldl_enlist (hpids : ∀ pid ∈ pids, pid ∉ kept.map (·.pid))
    (hr : g.registry.records.get? serial = some { r with clients := kept ++ new })
    (hnew : new.map Client.about = seen.eraseDups.map fun pid => (pid, serial, described pid)) :
    ∃ new', (pids.foldl (enlist serial described) g).registry.records.get? serial =
        some { r with clients := kept ++ new' } ∧
      new'.map Client.about =
        (seen ++ pids).eraseDups.map fun pid => (pid, serial, described pid) := by
  induction pids generalizing g seen new with
  | nil => exact ⟨new, hr, by rw [List.append_nil]; exact hnew⟩
  | cons pid pids ih =>
    obtain ⟨hpid, hpids⟩ := List.forall_mem_cons.1 hpids
    have henlist : (g.enlist serial described pid).registry.records.get? serial = _ :=
      Registry.get?_addClient (c := ⟨pid, serial, described pid, g.ports.take.1⟩) hr
    obtain ⟨new', henroll, hnew'⟩ := Registry.enroll_behind
      (c := ⟨pid, serial, described pid, g.ports.take.1⟩) hpid rfl hnew
    rw [henroll] at henlist
    rw [← eraseDups_append_singleton] at hnew'
    have := ih hpids henlist hnew'
    rwa [List.append_assoc, List.singleton_append] at this

theorem get?_foldl_enlist_of_ne (hother : other ≠ serial) :
    (pids.foldl (enlist serial described) g).registry.records.get? other =
      g.registry.records.get? other := by
  induction pids generalizing g with
  | nil => rfl
  | cons pid pids ih =>
    rw [List.foldl_cons, ih]
    exact Registry.get?_addClient_of_ne (c := ⟨pid, serial, described pid, g.ports.take.1⟩) hother

/-- A port that is taken and given back makes no difference. -/
theorem isHeld_takeAndRelease (pool : PortPool) (h : pool.Sound) (port : UInt16) :
    (pool.take.2.releaseAll pool.take.1.toList).Sound ∧
      (pool.take.2.releaseAll pool.take.1.toList).isHeld port = pool.isHeld port := by
  have hsound := h.take
  rcases htake : pool.take with ⟨taken, pool'⟩
  rw [htake] at hsound
  cases taken with
  | none => exact ⟨hsound, by rw [PortPool.eq_of_take_none htake]; rfl⟩
  | some p =>
    obtain ⟨hfree, hheld⟩ := PortPool.isHeld_of_take h htake
    refine ⟨hsound.release p, (PortPool.isHeld_release pool' p port).trans ?_⟩
    rw [hheld]
    by_cases hport : port = p
    · rw [hport, bne_self_eq_false, hfree, Bool.false_and]
    · rw [bne_iff_ne.2 hport, beq_false_of_ne hport, Bool.true_and, Bool.false_or]

/-- For a device that is not known nothing changes, and the same ports are held as before. -/
theorem foldl_enlist_of_unknown (hports : g.ports.Sound)
    (h : g.registry.records.get? serial = none) (port : UInt16) :
    (pids.foldl (enlist serial described) g).registry = g.registry ∧
      (pids.foldl (enlist serial described) g).ports.isHeld port = g.ports.isHeld port := by
  induction pids generalizing g with
  | nil => exact ⟨rfl, rfl⟩
  | cons pid pids ih =>
    have hregistry : (g.enlist serial described pid).registry = g.registry :=
      Registry.registry_addClient_of_unknown
        (c := ⟨pid, serial, described pid, g.ports.take.1⟩) h
    have hresult : (g.registry.addClient ⟨pid, serial, described pid, g.ports.take.1⟩).result =
        false := by
      rw [Registry.result_addClient, h]
      rfl
    have hpool : (g.enlist serial described pid).ports =
        g.ports.take.2.releaseAll g.ports.take.1.toList := by
      show (if (g.registry.addClient _).result then _ else _) = _
      rw [hresult]
      rfl
    obtain ⟨hsound, hheld⟩ := isHeld_takeAndRelease g.ports hports port
    rw [← hpool] at hsound hheld
    obtain ⟨hregistry', hheld'⟩ := ih hsound (hregistry ▸ h)
    exact ⟨hregistry'.trans hregistry, hheld'.trans hheld⟩

/-! ## A list of processes -/

/-- What is shared after the clients of a device that are not on a list of processes were dropped. -/
def keep (serial : String) (pids : List UInt32) (g : Shared) : Shared :=
  let u := g.registry.retainClients serial pids
  ⟨u.registry, g.ports.releaseAll (u.result.filterMap (·.debuggerPort))⟩

/-- The processes on a list that are no clients of a device. -/
def strangers (serial : String) (pids : List UInt32) (g : Shared) : List UInt32 :=
  pids.filter fun pid => ! (g.registry.pids serial).contains pid

/-- What is shared after a list of processes was heard, of which some can be identified. -/
def follow (serial : String) (identified : UInt32 → Bool) (described : UInt32 → Option String)
    (pids : List UInt32) (g : Shared) : Shared :=
  (((g.keep serial pids).strangers serial pids).filter identified).foldl
    (enlist serial described) (g.keep serial pids)

variable {identified : UInt32 → Bool}

theorem get?_keep (h : g.registry.records.get? serial = some r) :
    (g.keep serial pids).registry.records.get? serial =
      some { r with clients := r.clients.filter fun c => pids.contains c.pid } := by
  show (g.registry.edit serial .clientList _).registry.records.get? serial = _
  rw [Registry.get?_edit h, if_pos rfl, Registry.clientsKept, List.partition_eq_filter_filter]

theorem keep_of_unknown (h : g.registry.records.get? serial = none) : g.keep serial pids = g := by
  rw [keep, Registry.retainClients, Registry.edit_of_unknown _ h]
  rfl

theorem get?_keep_of_ne (hother : other ≠ serial) :
    (g.keep serial pids).registry.records.get? other = g.registry.records.get? other := by
  cases h : g.registry.records.get? serial with
  | none => rw [keep_of_unknown h]
  | some r =>
    show (g.registry.edit serial .clientList _).registry.records.get? other = _
    rw [Registry.get?_edit h, if_neg hother]

/-- Dropping clients that are not on a list makes no process on it a stranger. -/
theorem strangers_keep (h : g.registry.records.get? serial = some r) :
    (g.keep serial pids).strangers serial pids =
      pids.filter fun pid => ! (r.clients.map (·.pid)).contains pid := by
  refine List.filter_congr fun pid hpid => ?_
  rw [Registry.pids, Registry.clients_of_get? (get?_keep h), Bool.eq_iff_iff]
  simp only [Bool.not_eq_true', List.contains_eq_mem, decide_eq_false_iff_not, List.mem_map,
    List.mem_filter, decide_eq_true_eq]
  refine not_congr (exists_congr fun c => ?_)
  constructor
  · rintro ⟨⟨hc, -⟩, hcp⟩
    exact ⟨hc, hcp⟩
  · rintro ⟨hc, rfl⟩
    exact ⟨⟨hc, hpid⟩, rfl⟩

/-- A known device keeps its clients on the list, in their order, and has then one more for each process
on it that was no client and can be identified. -/
theorem get?_follow (h : g.registry.records.get? serial = some r) :
    ∃ new : List Client,
      (g.follow serial identified described pids).registry.records.get? serial = some { r with
        clients := r.clients.filter (fun c => pids.contains c.pid) ++ new } ∧
      new.map Client.about =
        (pids.filter fun pid => identified pid && ! (r.clients.map (·.pid)).contains pid).eraseDups.map
          fun pid => (pid, serial, described pid) := by
  have hkeep : (g.keep serial pids).registry.records.get? serial = some { r with
      clients := r.clients.filter (fun c => pids.contains c.pid) ++ [] } := by
    rw [get?_keep h, List.append_nil]
  have hnone : ([] : List Client).map Client.about =
      ([] : List UInt32).eraseDups.map fun pid => (pid, serial, described pid) := rfl
  rw [follow, strangers_keep h, List.filter_filter]
  refine get?_foldl_enlist (fun pid hpid hkept => ?_) hkeep hnone
  obtain ⟨-, hnew⟩ := List.mem_filter.1 hpid
  obtain ⟨c, hc, rfl⟩ := List.mem_map.1 hkept
  have hclient : c.pid ∈ r.clients.map (·.pid) :=
    List.mem_map_of_mem (List.mem_of_mem_filter hc)
  simp [hclient] at hnew

theorem get?_follow_of_ne (hother : other ≠ serial) :
    (g.follow serial identified described pids).registry.records.get? other =
      g.registry.records.get? other := by
  rw [follow, get?_foldl_enlist_of_ne hother, get?_keep_of_ne hother]

theorem follow_of_unknown (hports : g.ports.Sound)
    (h : g.registry.records.get? serial = none) (port : UInt16) :
    (g.follow serial identified described pids).registry = g.registry ∧
      (g.follow serial identified described pids).ports.isHeld port = g.ports.isHeld port := by
  rw [follow, keep_of_unknown h]
  exact foldl_enlist_of_unknown hports h port

end Shared

end DebugBridge
