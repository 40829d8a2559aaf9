import DebugBridge.Proofs.Registry.Ports
import DebugBridge.Proofs.Registry.Replica

/-!
# What an operation does to the state and the clients of a device

A device list sets states and lets a device keep its clients, unless the device is new. An edit
leaves all states as they are, and the clients of all devices but its own.

Results:
* `state?_edit`, `clients_edit_of_ne`, `clients_edit`: what an edit changes.
* `clients_applyList`: a device list adds no clients.
* `mem_pids_clientsKept`, `mem_pids_addClient`: which process numbers there are after an edit.
-/

namespace DebugBridge

namespace Registry

variable {reg : Registry} {serial k : String} {r : Record}

/-- The process numbers of a device's clients. -/
def pids (reg : Registry) (serial : String) : List UInt32 := (reg.clients serial).map (·.pid)

theorem pids_eq_nil_iff : reg.pids serial = [] ↔ reg.clients serial = [] := List.map_eq_nil_iff

theorem clients_of_get? (h : reg.records.get? serial = some r) :
    reg.clients serial = r.clients := by
  simp [clients, h]

theorem clients_of_unknown (h : reg.records.get? serial = none) : reg.clients serial = [] := by
  simp [clients, h]

theorem isOnline_eq (reg : Registry) (serial : String) :
    reg.isOnline serial = ((reg.records.get? serial).map (·.state) == some .online) := rfl

@[simp] theorem isOnline_empty (serial : String) : empty.isOnline serial = false := rfl

/-! ## Edits -/

section Edits

variable {α : Type} {what : Change} {f : Record → Edit α}

theorem get?_edit (h : reg.records.get? serial = some r) :
    (reg.edit serial what f).registry.records.get? k =
      if k = serial then some (f r).record else reg.records.get? k := by
  rw [edit, h]
  exact Dict.get?_insert ..

theorem state?_edit (hf : ∀ r, (f r).record.state = r.state) :
    (reg.edit serial what f).registry.state? k = reg.state? k := by
  cases h : reg.records.get? serial with
  | none => rw [edit_of_unknown f h]
  | some r =>
    rw [state?, get?_edit h, state?]
    split_ifs with hk
    · rw [hk, h, Option.map_some, Option.map_some, hf]
    · rfl

theorem isOnline_edit (hf : ∀ r, (f r).record.state = r.state) :
    (reg.edit serial what f).registry.isOnline k = reg.isOnline k := by
  rw [isOnline, state?_edit hf, isOnline]

theorem clients_edit_of_ne (hk : k ≠ serial) :
    (reg.edit serial what f).registry.clients k = reg.clients k := by
  cases h : reg.records.get? serial with
  | none => rw [edit_of_unknown f h]
  | some r => rw [clients, get?_edit h, if_neg hk, clients]

theorem clients_edit (h : reg.records.get? serial = some r) :
    (reg.edit serial what f).registry.clients serial = (f r).record.clients := by
  rw [clients, get?_edit h, if_pos rfl]
  rfl

theorem clients_edit_of_clients (hf : ∀ r, (f r).record.clients = r.clients) :
    (reg.edit serial what f).registry.clients k = reg.clients k := by
  by_cases hk : k = serial
  · subst hk
    cases h : reg.records.get? k with
    | none => rw [edit_of_unknown f h]
    | some r => rw [clients_edit h, hf, clients_of_get? h]
  · exact clients_edit_of_ne hk

end Edits

theorem state_clientsKept (p : Client → Bool) (r : Record) :
    (clientsKept p r).record.state = r.state := rfl

theorem clients_clientsKept (p : Client → Bool) (r : Record) :
    (clientsKept p r).record.clients = r.clients.filter p := by
  rw [clientsKept, List.partition_eq_filter_filter]

theorem state_clientAdded (c : Client) (r : Record) : (clientAdded c r).record.state = r.state := by
  unfold clientAdded
  split
  · split_ifs <;> rfl
  · rfl

theorem state_setUnless {same : Record → Bool} {set : Record → Record}
    (hset : ∀ r, (set r).state = r.state) (r : Record) :
    (setUnless same set r).record.state = r.state := by
  unfold setUnless
  split_ifs
  · rfl
  · exact hset r

theorem clients_clearClients (reg : Registry) (serial : String) :
    (reg.clearClients serial).registry.clients serial = [] := by
  rw [clearClients]
  cases h : reg.records.get? serial with
  | none =>
    rw [edit_of_unknown _ h]
    exact clients_of_unknown h
  | some r => simp [clients_edit h, clients_clientsKept]

variable {pid : UInt32}

theorem mem_pids_clientsKept {p : Client → Bool}
    (h : pid ∈ (reg.edit serial .clientList (clientsKept p)).registry.pids k) :
    pid ∈ reg.pids k := by
  by_cases hk : k = serial
  · subst hk
    cases hr : reg.records.get? k with
    | none => rwa [edit_of_unknown _ hr] at h
    | some r =>
      rw [pids, clients_edit hr, clients_clientsKept] at h
      obtain ⟨c, hc, rfl⟩ := List.mem_map.1 h
      rw [pids, clients_of_get? hr]
      exact List.mem_map_of_mem (List.mem_filter.1 hc).1
  · rwa [pids, clients_edit_of_ne hk] at h

theorem mem_replaceClient {c x : Client} {clients : List Client}
    (h : x ∈ replaceClient c clients) : x = c ∨ x ∈ clients := by
  induction clients with
  | nil => cases h
  | cons y rest ih =>
    rw [replaceClient] at h
    split_ifs at h
    · exact (List.mem_cons.1 h).imp id (List.mem_cons_of_mem _)
    · rcases List.mem_cons.1 h with rfl | h
      · exact .inr List.mem_cons_self
      · exact (ih h).imp id (List.mem_cons_of_mem _)

theorem mem_clientAdded {c x : Client} (h : x ∈ (clientAdded c r).record.clients) :
    x = c ∨ x ∈ r.clients := by
  unfold clientAdded at h
  split at h
  · split_ifs at h
    · exact .inr h
    · exact mem_replaceClient h
  · rcases List.mem_append.1 h with h | h
    · exact .inr h
    · exact .inl (List.mem_singleton.1 h)

/-- A client that is added brings its process number to its device. -/
theorem mem_pids_addClient {c : Client} (h : pid ∈ (reg.addClient c).registry.pids k) :
    pid ∈ reg.pids k ∨ k = c.serial ∧ pid = c.pid := by
  rw [addClient] at h
  by_cases hk : k = c.serial
  · subst hk
    cases hr : reg.records.get? c.serial with
    | none =>
      rw [edit_of_unknown _ hr] at h
      exact .inl h
    | some r =>
      rw [pids, clients_edit hr] at h
      obtain ⟨x, hx, rfl⟩ := List.mem_map.1 h
      rcases mem_clientAdded hx with rfl | hx
      · exact .inr ⟨rfl, rfl⟩
      · rw [pids, clients_of_get? hr]
        exact .inl (List.mem_map_of_mem hx)
  · rw [pids, clients_edit_of_ne hk] at h
    exact .inl h

/-! ## Device lists -/

/-- A line of a device list sets the state of its device, which is new unless it is known. -/
theorem get?_line (p : Pass) (l : Listed) (k : String) :
    (p.line l).records.get? k =
      if k = l.serial then
        some { (p.records.get? k).getD (Record.fresh l.state) with state := l.state }
      else p.records.get? k := by
  unfold Pass.line
  split
  · rename_i hr
    rw [Dict.get?_insert]
    split_ifs with hk
    · rw [hk, hr]
      rfl
    · rfl
  · rename_i r hr
    by_cases hstate : r.state = l.state
    · rw [if_pos hstate]
      split_ifs with hk
      · rw [hk, hr, ← hstate]
        rfl
      · rfl
    · rw [if_neg hstate, Dict.get?_insert]
      split_ifs with hk
      · rw [hk, hr]
        rfl
      · rfl

theorem clients_line (p : Pass) (l : Listed) (k : String) :
    clients ⟨(p.line l).records⟩ k = clients ⟨p.records⟩ k := by
  rw [clients, clients, get?_line]
  split_ifs
  · cases p.records.get? k <;> rfl
  · rfl

theorem clients_foldl (list : List Listed) (p : Pass) (k : String) :
    clients ⟨(list.foldl Pass.line p).records⟩ k = clients ⟨p.records⟩ k := by
  induction list generalizing p with
  | nil => rfl
  | cons l list ih => exact (ih (p.line l)).trans (clients_line p l k)

/-- After a device list a device has the clients that it had, or none. -/
theorem clients_applyList (reg : Registry) (list : List Listed) (k : String) :
    (reg.applyList list).registry.clients k = reg.clients k ∨
      (reg.applyList list).registry.clients k = [] := by
  simp only [applyList]
  rw [clients_foldl, clients, Dict.get?_filterKeys]
  split_ifs
  · exact .inl rfl
  · exact .inr rfl

end Registry

end DebugBridge
