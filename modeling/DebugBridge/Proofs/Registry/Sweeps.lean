import DebugBridge.Proofs.Registry.Clients

/-!
# Sweeps and edits

The states of the devices are told by the sweeps alone: the device lists, and the times at which all
devices were dropped. An edit of a device between two sweeps does not count
(`state?_performAll_filter`). Where no device ever has clients, to drop the clients of one is nothing
at all (`performAll_of_no_clients`), and where there are no devices every operation but a device list
is nothing (`performAll_empty`).
-/

namespace DebugBridge

namespace Registry

variable {reg reg' : Registry} {op : Operation} {ops more : List Operation} {serial : String}

/-! ## Histories -/

theorem performAll_cons : reg.performAll (op :: ops) =
    (((reg.perform op).1.performAll ops).1,
      (reg.perform op).2 ++ ((reg.perform op).1.performAll ops).2) := rfl

theorem performAll_append : reg.performAll (ops ++ more) =
    (((reg.performAll ops).1.performAll more).1,
      (reg.performAll ops).2 ++ ((reg.performAll ops).1.performAll more).2) := by
  induction ops generalizing reg with
  | nil => rfl
  | cons op ops ih =>
    rw [List.cons_append, performAll_cons, ih, performAll_cons, List.append_assoc]

/-! ## The states of the devices -/

theorem state_clientRemoved (pid : UInt32) (r : Record) :
    (clientRemoved pid r).record.state = r.state := by
  unfold clientRemoved
  split <;> rfl

/-- An operation that is no sweep leaves all states as they are. -/
theorem state?_perform_of_edit (h : op.isSweep = false) :
    (reg.perform op).1.state? serial = reg.state? serial := by
  cases op with
  | applyList | clear => cases h
  | addClient => exact state?_edit (state_clientAdded _)
  | removeClient => exact state?_edit (state_clientRemoved _)
  | retainClients | clearClients => exact state?_edit (state_clientsKept _)
  | setProperties | setMountPoint | setAvdName => exact state?_edit (state_setUnless fun _ => rfl)

/-- A line of a device list sets the state of its device. -/
theorem state?_line (p : Pass) (l : Listed) (serial : String) :
    state? ⟨(p.line l).records⟩ serial =
      if serial = l.serial then some l.state else state? ⟨p.records⟩ serial := by
  rw [state?, get?_line]
  split_ifs <;> rfl

theorem state?_foldl_congr {p p' : Pass} (list : List Listed)
    (h : ∀ serial, state? ⟨p.records⟩ serial = state? ⟨p'.records⟩ serial) (serial : String) :
    state? ⟨(list.foldl Pass.line p).records⟩ serial =
      state? ⟨(list.foldl Pass.line p').records⟩ serial := by
  induction list generalizing p p' with
  | nil => exact h serial
  | cons l list ih =>
    have hline : ∀ serial, state? ⟨(p.line l).records⟩ serial =
        state? ⟨(p'.line l).records⟩ serial := by
      intro serial
      rw [state?_line, state?_line, h]
    exact ih hline

/-- The states after a device list are told by it and by those before it. -/
theorem state?_applyList_congr (h : ∀ serial, reg.state? serial = reg'.state? serial)
    (list : List Listed) (serial : String) :
    (reg.applyList list).registry.state? serial =
      (reg'.applyList list).registry.state? serial := by
  refine state?_foldl_congr list (fun serial => ?_) serial
  rw [state?, state?, Dict.get?_filterKeys, Dict.get?_filterKeys]
  split_ifs
  · exact h serial
  · rfl

theorem state?_perform_congr (hop : op.isSweep = true)
    (h : ∀ serial, reg.state? serial = reg'.state? serial) (serial : String) :
    (reg.perform op).1.state? serial = (reg'.perform op).1.state? serial := by
  cases op with
  | applyList list => exact state?_applyList_congr h list serial
  | clear => rfl
  | _ => cases hop

/-- The states of the devices are told by the sweeps alone. -/
theorem state?_performAll_filter (ops : List Operation)
    (h : ∀ serial, reg.state? serial = reg'.state? serial) (serial : String) :
    (reg.performAll ops).1.state? serial =
      (reg'.performAll (ops.filter (·.isSweep))).1.state? serial := by
  induction ops generalizing reg reg' with
  | nil => exact h serial
  | cons op ops ih =>
    cases hop : op.isSweep with
    | true =>
      rw [List.filter_cons_of_pos hop]
      exact ih (state?_perform_congr hop h)
    | false =>
      rw [List.filter_cons_of_neg (by simp [hop])]
      exact ih fun serial => (state?_perform_of_edit hop).trans (h serial)

/-! ## Registries without devices or clients -/

theorem edit_of_unchanged {α : Type} {what : Change} {f : Record → Edit α}
    (hf : Truthful what f) (h : ∀ r, reg.records.get? serial = some r → (f r).changed = false) :
    (reg.edit serial what f).registry = reg ∧ (reg.edit serial what f).events = [] := by
  cases hr : reg.records.get? serial with
  | none =>
    rw [edit_of_unknown f hr]
    exact ⟨rfl, rfl⟩
  | some r =>
    have hsame : reg.records.insert serial (f r).record = reg.records := by
      rw [hf.unchanged r (h r hr), Dict.insert_of_get? hr]
    rw [edit, hr]
    exact ⟨congrArg Registry.mk hsame, if_neg (by simp [h r hr])⟩

/-- With no clients there are none to drop. -/
theorem perform_clearClients_of_nil (h : reg.clients serial = []) :
    reg.perform (.clearClients serial) = (reg, []) := by
  obtain ⟨hreg, hevents⟩ : (reg.clearClients serial).registry = reg ∧
      (reg.clearClients serial).events = [] := by
    refine edit_of_unchanged (truthful_clientsKept _) fun r hr => ?_
    rw [clients_of_get? hr] at h
    simp [clientsKept, h]
  exact Prod.ext hreg hevents

theorem clients_perform_of_sweep (hop : op.isSweep = true) (h : ∀ serial, reg.clients serial = [])
    (serial : String) : (reg.perform op).1.clients serial = [] := by
  cases op with
  | applyList list =>
    rcases clients_applyList reg list serial with hclients | hclients
    · exact hclients.trans (h serial)
    · exact hclients
  | clear => rfl
  | _ => cases hop

/-- Where nobody adds clients, dropping them may as well be left out. -/
theorem performAll_of_no_clients (h : ∀ serial, reg.clients serial = [])
    (hops : ∀ op ∈ ops, op.isSweep = true ∨ ∃ serial, op = .clearClients serial) :
    reg.performAll ops = reg.performAll (ops.filter (·.isSweep)) := by
  induction ops generalizing reg with
  | nil => rfl
  | cons op ops ih =>
    obtain ⟨hop, hrest⟩ := List.forall_mem_cons.1 hops
    rcases hop with hop | ⟨serial, rfl⟩
    · rw [List.filter_cons_of_pos hop, performAll_cons, performAll_cons,
        ih (clients_perform_of_sweep hop h) hrest]
    · rw [List.filter_cons_of_neg (by simp [Operation.isSweep]), performAll_cons,
        perform_clearClients_of_nil (h serial), List.nil_append, ih h hrest]

theorem perform_empty (h : ∀ list, op ≠ .applyList list) : empty.perform op = (empty, []) := by
  cases op with
  | applyList list => exact absurd rfl (h list)
  | _ => rfl

/-- Without device lists there are never any devices. -/
theorem performAll_empty (h : ∀ op ∈ ops, ∀ list, op ≠ .applyList list) :
    empty.performAll ops = (empty, []) := by
  induction ops with
  | nil => rfl
  | cons op ops ih =>
    obtain ⟨hop, hops⟩ := List.forall_mem_cons.1 h
    rw [performAll_cons, perform_empty hop, List.nil_append, ih hops]

/-- When all devices are dropped, each of them is told of as disconnected. -/
theorem events_clear (reg : Registry) :
    reg.clear.events = reg.devices.map fun d => .disconnected { d with state := .disconnected } := by
  rw [devices, List.map_map]
  rfl

/-- If no device list comes after the dropping of all devices, nothing comes after it. -/
theorem performAll_clear (h : ∀ op ∈ more, ∀ list, op ≠ .applyList list) :
    reg.performAll (ops ++ .clear :: more) =
      (.empty, (reg.performAll ops).2 ++
        (reg.performAll ops).1.devices.map fun d =>
          .disconnected { d with state := .disconnected }) := by
  have hclear : ∀ reg' : Registry, reg'.perform .clear = (.empty, reg'.clear.events) :=
    fun _ => rfl
  rw [performAll_append, performAll_cons, hclear, performAll_empty h, List.append_nil,
    events_clear]

end Registry

end DebugBridge
