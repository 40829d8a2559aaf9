import DebugBridge.Monitor.Ports
import Mathlib.Tactic.Set
import Mathlib.Tactic.SplitIfs

/-!
# Operations on the registry make and lose no ports

Each operation on the registry is a balance of ports. Those of the clients that it leaves, and those
that it hands out (by its answer to the caller, or by the farewells that it publishes), are the ones
that came in. Ports are counted one by one, so that no port can be had twice.

Results:
* `count_clientsKept`, `count_addClient`: clients that are removed, and one that is added.
* `count_edit_of_clients`: what else is known of a device has no ports.
* `count_applyList`, `ports_clear`: device lists.
-/

namespace DebugBridge

/-! ## Entries as a list of entries in any order -/

namespace Dict

variable {α : Type} {d : Dict α} {k : String} {v : α}

theorem nodup_entries (d : Dict α) : d.entries.Nodup :=
  d.ascending.imp fun {a b} (h : a.1 < b.1) (he : a = b) => String.lt_irrefl b.1 (he ▸ h)

theorem perm_of_get? (h : d.get? k = some v) : d.entries.Perm ((k, v) :: (d.erase k).entries) := by
  have hnot : (k, v) ∉ (d.erase k).entries := by
    rw [mem_entries_iff, get?_erase, if_pos rfl]
    exact nofun
  -- No entry is there twice, so it is enough to compare the members.
  refine (List.perm_ext_iff_of_nodup d.nodup_entries
    (List.nodup_cons.2 ⟨hnot, nodup_entries _⟩)).2 fun e => ?_
  obtain ⟨k', v'⟩ := e
  rw [List.mem_cons, mem_entries_iff, mem_entries_iff, get?_erase, Prod.mk.injEq]
  by_cases hk : k' = k
  · subst hk
    simp [h, eq_comm]
  · simp [hk]

theorem erase_insert : (d.insert k v).erase k = d.erase k :=
  ext_get? fun k' => by
    rw [get?_erase, get?_erase, get?_insert]
    split_ifs <;> rfl

theorem perm_insert (d : Dict α) (k : String) (v : α) :
    (d.insert k v).entries.Perm ((k, v) :: (d.erase k).entries) := by
  have h : (d.insert k v).get? k = some v := by rw [get?_insert, if_pos rfl]
  exact erase_insert ▸ perm_of_get? h

theorem erase_of_get? (h : d.get? k = none) : d.erase k = d :=
  ext_get? fun k' => by
    rw [get?_erase]
    split_ifs with hk
    · rw [hk, h]
    · rfl

end Dict

/-! ## Ports of clients -/

namespace Client

variable (port : UInt16)

theorem count_ports_filter (p : Client → Bool) (clients : List Client) :
    (ports (clients.filter p)).count port + (ports (clients.filter (! p ·))).count port =
      (ports clients).count port := by
  have := ((List.filter_append_perm p clients).filterMap (·.debuggerPort)).count_eq port
  rwa [List.filterMap_append, List.count_append] at this

theorem ports_cons (c : Client) (clients : List Client) :
    ports (c :: clients) = ports [c] ++ ports clients := by
  rw [ports, ports, ports, ← List.filterMap_append]
  rfl

theorem ports_singleton (c : Client) : ports [c] = c.debuggerPort.toList := by
  rw [ports, List.filterMap_cons]
  cases c.debuggerPort <;> rfl

theorem ports_append (clients more : List Client) :
    ports (clients ++ more) = ports clients ++ ports more :=
  List.filterMap_append

theorem count_ports_replaceClient {c old : Client} {clients : List Client}
    (h : clients.find? (·.pid == c.pid) = some old) :
    (ports (Registry.replaceClient c clients)).count port + (ports [old]).count port =
      (ports clients).count port + (ports [c]).count port := by
  induction clients with
  | nil => cases h
  | cons x rest ih =>
    rw [ports_cons x rest, List.count_append, Registry.replaceClient]
    by_cases hx : x.pid = c.pid
    · obtain rfl : x = old := by simpa [List.find?_cons, hx] using h
      rw [if_pos hx, ports_cons c rest, List.count_append]
      omega
    · have := ih (by simpa [List.find?_cons, hx] using h)
      rw [if_neg hx, ports_cons x, List.count_append]
      omega

end Client

namespace Registry

variable {reg : Registry} {serial : String} {r : Record} (port : UInt16)

theorem debuggerPorts_eq (reg : Registry) :
    reg.debuggerPorts = reg.records.entries.flatMap fun e => Client.ports e.2.clients := by
  simp [debuggerPorts, devices, List.flatMap_map, Record.snapshot]

@[simp] theorem debuggerPorts_empty : empty.debuggerPorts = [] := rfl

/-! ## One record among the others -/

theorem count_insert (records : Dict Record) (serial : String) (r : Record) :
    (debuggerPorts ⟨records.insert serial r⟩).count port =
      (Client.ports r.clients).count port + (debuggerPorts ⟨records.erase serial⟩).count port := by
  rw [debuggerPorts_eq, debuggerPorts_eq,
    ((records.perm_insert serial r).flatMap_right _).count_eq, List.flatMap_cons, List.count_append]

theorem count_of_get? (h : reg.records.get? serial = some r) :
    reg.debuggerPorts.count port = (Client.ports r.clients).count port +
      (debuggerPorts ⟨reg.records.erase serial⟩).count port := by
  rw [debuggerPorts_eq, debuggerPorts_eq,
    ((Dict.perm_of_get? h).flatMap_right _).count_eq, List.flatMap_cons, List.count_append]

/-! ## Edits -/

/-- An edit of a known record changes the ports of this record alone. -/
theorem count_edit {α : Type} {what : Change} (f : Record → Edit α)
    (h : reg.records.get? serial = some r) :
    (reg.edit serial what f).registry.debuggerPorts.count port +
        (Client.ports r.clients).count port =
      reg.debuggerPorts.count port + (Client.ports (f r).record.clients).count port := by
  rw [count_of_get? port h, edit, h]
  simp only [count_insert]
  omega

theorem edit_of_unknown {α : Type} {what : Change} (f : Record → Edit α)
    (h : reg.records.get? serial = none) : reg.edit serial what f = ⟨reg, [], none⟩ := by
  rw [edit, h]

theorem result_edit {α : Type} {what : Change} (f : Record → Edit α)
    (h : reg.records.get? serial = some r) :
    (reg.edit serial what f).result = some (f r).answer := by
  rw [edit, h]

/-- Clients that are removed are handed to the caller. -/
theorem count_clientsKept (reg : Registry) (serial : String) (p : Client → Bool) :
    let u := reg.edit serial .clientList (clientsKept p)
    u.registry.debuggerPorts.count port + (Client.ports (u.result.getD [])).count port =
      reg.debuggerPorts.count port := by
  intro u
  cases h : reg.records.get? serial with
  | none => simp [u, edit_of_unknown _ h, Client.ports]
  | some r =>
    have hedit : u.registry.debuggerPorts.count port + _ = _ :=
      count_edit port (clientsKept p) h
    have hsplit := Client.count_ports_filter port p r.clients
    have hresult : u.result = some (r.clients.filter (! p ·)) := by
      rw [result_edit _ h, clientsKept, List.partition_eq_filter_filter]
      rfl
    have hkept : (clientsKept p r).record.clients = r.clients.filter p := by
      rw [clientsKept, List.partition_eq_filter_filter]
    rw [hkept] at hedit
    rw [hresult, Option.getD_some]
    omega

/-- A client that is added brings its port. One whose place it takes leaves with its own port, and
the caller is not told. -/
theorem count_addClient (reg : Registry) (c : Client) :
    let u := reg.addClient c
    u.registry.debuggerPorts.count port +
        (Client.ports ((reg.clients c.serial).find? (·.pid == c.pid)).toList).count port +
        (Client.ports (if u.result then [] else [c])).count port =
      reg.debuggerPorts.count port + (Client.ports [c]).count port := by
  intro u
  cases h : reg.records.get? c.serial with
  | none =>
    simp [u, addClient, edit_of_unknown _ h, clients, h, Client.ports]
  | some r =>
    have hedit : u.registry.debuggerPorts.count port + _ = _ :=
      count_edit port (clientAdded c) h
    have hknown : u.result = true := by simp [u, addClient, result_edit _ h]
    have hclients : reg.clients c.serial = r.clients := by simp [clients, h]
    rw [hknown, hclients, if_pos rfl]
    cases hfind : r.clients.find? (·.pid == c.pid) with
    | none =>
      have hadded : (clientAdded c r).record.clients = r.clients ++ [c] := by
        simp [clientAdded, hfind]
      rw [hadded, Client.ports_append, List.count_append] at hedit
      simp only [Option.toList_none, Client.ports, List.filterMap_nil, List.count_nil]
      simp only [Client.ports] at hedit
      omega
    | some old =>
      have hreplaced := Client.count_ports_replaceClient port hfind
      have hadded : (Client.ports (clientAdded c r).record.clients).count port +
          (Client.ports [old]).count port =
            (Client.ports r.clients).count port + (Client.ports [c]).count port := by
        by_cases hold : old = c
        · simp [clientAdded, hfind, hold]
        · simpa [clientAdded, hfind, hold] using hreplaced
      simp only [Option.toList_some, Client.ports, List.filterMap_nil, List.count_nil]
      simp only [Client.ports] at hedit hadded
      omega

/-- What else is known of a device has no ports. -/
theorem count_edit_of_clients {α : Type} {what : Change} (f : Record → Edit α)
    (hf : ∀ r, (f r).record.clients = r.clients) (reg : Registry) (serial : String) :
    (reg.edit serial what f).registry.debuggerPorts.count port = reg.debuggerPorts.count port := by
  cases h : reg.records.get? serial with
  | none => rw [edit_of_unknown _ h]
  | some r =>
    have hedit : (reg.edit serial what f).registry.debuggerPorts.count port + _ = _ :=
      count_edit port f h
    rw [hf] at hedit
    omega

theorem clients_setUnless {same : Record → Bool} {set : Record → Record}
    (hset : ∀ r, (set r).clients = r.clients) (r : Record) :
    (setUnless same set r).record.clients = r.clients := by
  unfold setUnless
  split_ifs
  · rfl
  · exact hset r

/-! ## Device lists -/

theorem ports_farewells (entries : List (String × Record)) :
    (entries.map fun e => farewell e.1 e.2).flatMap Event.ports =
      entries.flatMap fun e => Client.ports e.2.clients := by
  rw [List.flatMap_map]
  rfl

@[simp] theorem registry_clear (reg : Registry) : reg.clear.registry = empty := rfl

/-- The farewells of all devices tell of all ports. -/
theorem ports_clear (reg : Registry) :
    reg.clear.events.flatMap Event.ports = reg.debuggerPorts := by
  rw [debuggerPorts_eq, ← ports_farewells]
  rfl

/-- A pass over a device list says farewell to nobody. -/
theorem Pass.ports_line (p : Pass) (l : Listed)
    (h : p.arrivals.flatMap Event.ports = [] ∧ p.changes.flatMap Event.ports = []) :
    (p.line l).arrivals.flatMap Event.ports = [] ∧
      (p.line l).changes.flatMap Event.ports = [] ∧
      (debuggerPorts ⟨(p.line l).records⟩).count port =
        (debuggerPorts ⟨p.records⟩).count port := by
  obtain ⟨harrivals, hchanges⟩ := h
  unfold Pass.line
  split
  · rename_i hr
    refine ⟨by simp [harrivals, Event.ports], hchanges, ?_⟩
    rw [count_insert, Dict.erase_of_get? hr]
    simp [Record.fresh, Client.ports]
  · rename_i r hr
    split_ifs
    · exact ⟨harrivals, hchanges, rfl⟩
    · have hknown : (Registry.mk p.records).records.get? l.serial = some r := hr
      refine ⟨harrivals, by simp [hchanges, Event.ports], ?_⟩
      rw [count_insert]
      exact (count_of_get? port hknown).symm

theorem Pass.ports_foldl (list : List Listed) (p : Pass)
    (h : p.arrivals.flatMap Event.ports = [] ∧ p.changes.flatMap Event.ports = []) :
    (list.foldl Pass.line p).arrivals.flatMap Event.ports = [] ∧
      (list.foldl Pass.line p).changes.flatMap Event.ports = [] ∧
      (debuggerPorts ⟨(list.foldl Pass.line p).records⟩).count port =
        (debuggerPorts ⟨p.records⟩).count port := by
  induction list generalizing p with
  | nil => exact ⟨h.1, h.2, rfl⟩
  | cons l list ih =>
    obtain ⟨harrivals, hchanges, hcount⟩ := p.ports_line port l h
    obtain ⟨harrivals', hchanges', hcount'⟩ := ih (p.line l) ⟨harrivals, hchanges⟩
    exact ⟨harrivals', hchanges', hcount'.trans hcount⟩

/-- The ports of devices that are listed no longer go with their farewells. -/
theorem count_applyList (reg : Registry) (list : List Listed) :
    let u := reg.applyList list
    u.registry.debuggerPorts.count port + (u.events.flatMap Event.ports).count port =
      reg.debuggerPorts.count port := by
  simp only [applyList]
  set isListed := fun serial => list.any (·.serial == serial)
  obtain ⟨harrivals, hchanges, hcount⟩ :=
    Pass.ports_foldl port list ⟨reg.records.filterKeys isListed, [], []⟩ ⟨rfl, rfl⟩
  rw [List.flatMap_append, List.flatMap_append, harrivals, hchanges, List.append_nil,
    List.append_nil, ports_farewells, hcount, debuggerPorts_eq, debuggerPorts_eq,
    ← List.count_append, ← List.flatMap_append]
  have hperm := List.filter_append_perm (fun e : String × Record => isListed e.1)
    reg.records.entries
  exact (hperm.flatMap_right _).count_eq port

end Registry

end DebugBridge
