import DebugBridge.Proofs.Registry.Sweeps
import Mathlib.Data.List.Dedup

/-!
# The clients of a device

The clients of a device are a plain list, which some operations make shorter, and which the addition
of a client makes longer or changes in one place (`Recast`). By these the list stays in order: the
process numbers in it are in the order in which they were last newly added (`newcomers`), so that no
number is there twice. The operations that look for a client by its number, or take clients out of the
list, rely on that.

Results:
* `record_clientAdded`, what the addition of a client does to a record;
* `recast_perform`, all that an operation can do to the clients of a device;
* `Clientele.performAll`, what every history preserves;
* `performAll_clients`, what follows for the operations on clients.
-/

namespace DebugBridge

namespace Registry

variable {reg : Registry} {serial : String} {r : Record} {c : Client} {pid : UInt32}
  {clients : List Client} {op : Operation} {added : List UInt32}

/-! ## Newly added clients -/

/-- The process number of the client that an operation newly adds to a device: the device is known, and
has no client with this number yet. -/
def newcomer? (reg : Registry) (serial : String) : Operation → Option UInt32
  | .addClient c =>
    if c.serial = serial ∧ (reg.records.get? serial).isSome ∧ c.pid ∉ reg.pids serial then some c.pid
    else none
  | _ => none

/-- The process numbers that some operations newly add to a device, in order. A number that is added
again after its client was removed is there once more. -/
def newcomers (reg : Registry) (serial : String) : List Operation → List UInt32
  | [] => []
  | op :: ops => (reg.newcomer? serial op).toList ++ newcomers (reg.perform op).1 serial ops

/-- The clients after the addition of one, which takes the place of one with its process number. -/
def enroll (c : Client) (clients : List Client) : List Client :=
  if c.pid ∈ clients.map (·.pid) then replaceClient c clients else clients ++ [c]

/-! ## Lists of clients -/

theorem map_pid_replaceClient (c : Client) (clients : List Client) :
    (replaceClient c clients).map (·.pid) = clients.map (·.pid) := by
  induction clients with
  | nil => rfl
  | cons x rest ih =>
    rw [replaceClient]
    split_ifs with hx
    · rw [List.map_cons, List.map_cons, hx]
    · rw [List.map_cons, List.map_cons, ih]

/-- A client that is there as it is takes its own place. -/
theorem replaceClient_of_find? (h : clients.find? (·.pid == c.pid) = some c) :
    replaceClient c clients = clients := by
  induction clients with
  | nil => rfl
  | cons x rest ih =>
    rw [replaceClient]
    by_cases hx : x.pid = c.pid
    · obtain rfl : x = c := by simpa [List.find?_cons, hx] using h
      rw [if_pos rfl]
    · rw [if_neg hx, ih (by simpa [List.find?_cons, hx] using h)]

theorem find?_pid_eq_none_iff :
    clients.find? (·.pid == pid) = none ↔ pid ∉ clients.map (·.pid) := by
  simp [List.find?_eq_none]

theorem record_clientAdded (c : Client) (r : Record) :
    (clientAdded c r).record = { r with clients := enroll c r.clients } := by
  unfold clientAdded enroll
  split
  · rename_i old hfind
    have hknown : c.pid ∈ r.clients.map (·.pid) := by
      by_contra hnew
      rw [find?_pid_eq_none_iff.2 hnew] at hfind
      cases hfind
    rw [if_pos hknown]
    split_ifs with hold
    · rw [replaceClient_of_find? (hold ▸ hfind)]
    · rfl
  · rename_i hfind
    rw [if_neg (find?_pid_eq_none_iff.1 hfind)]

section Unique

variable (h : (clients.map (·.pid)).Nodup)
include h

theorem replaceClient_eq_map :
    replaceClient c clients = clients.map fun x => if x.pid = c.pid then c else x := by
  induction clients with
  | nil => rfl
  | cons x rest ih =>
    obtain ⟨hx, hrest⟩ := List.nodup_cons.1 h
    rw [replaceClient, List.map_cons]
    split_ifs with hpid
    · -- No client behind this one has its process number.
      have hsame : rest.map (fun x => if x.pid = c.pid then c else x) = rest := by
        refine (List.map_congr_left fun y hy => ?_).trans (List.map_id rest)
        rw [if_neg fun hy' => hx (List.mem_map.2 ⟨y, hy, hy'.trans hpid.symm⟩), id]
      rw [hsame]
    · rw [ih hrest]

theorem find?_pid_eq_some_iff :
    clients.find? (·.pid == pid) = some c ↔ c ∈ clients ∧ c.pid = pid := by
  induction clients with
  | nil => simp
  | cons x rest ih =>
    obtain ⟨hx, hrest⟩ := List.nodup_cons.1 h
    rw [List.find?_cons]
    by_cases hpid : x.pid = pid
    · subst hpid
      simp only [beq_self_eq_true, Option.some.injEq, List.mem_cons]
      constructor
      · rintro rfl
        exact ⟨.inl rfl, rfl⟩
      · rintro ⟨rfl | hc, hcx⟩
        · rfl
        · exact absurd (List.mem_map.2 ⟨c, hc, hcx⟩) hx
    · rw [beq_false_of_ne hpid, ih hrest, List.mem_cons]
      constructor
      · exact fun ⟨hc, hcp⟩ => ⟨.inr hc, hcp⟩
      · rintro ⟨rfl | hc, hcp⟩
        · exact absurd hcp hpid
        · exact ⟨hc, hcp⟩

theorem eraseP_pid_eq_filter :
    clients.eraseP (·.pid == pid) = clients.filter (·.pid != pid) := by
  induction clients with
  | nil => rfl
  | cons x rest ih =>
    obtain ⟨hx, hrest⟩ := List.nodup_cons.1 h
    rw [List.eraseP_cons, List.filter_cons]
    by_cases hpid : x.pid = pid
    · have hall : ∀ y ∈ rest, (y.pid != pid) = true := fun y hy =>
        bne_iff_ne.2 fun hy' => hx (List.mem_map.2 ⟨y, hy, hy'.trans hpid.symm⟩)
      simp [hpid, List.filter_eq_self.2 hall]
    · rw [beq_false_of_ne hpid, if_pos (bne_iff_ne.2 hpid), ih hrest]
      rfl

end Unique

/-! ## What an operation does to the clients of a device -/

/-- What can become of the clients of a device, with the process number of one that is new. -/
inductive Recast (serial : String) (clients : List Client) : Option UInt32 → List Client → Prop
  | fewer {left : List Client} (hleft : left.Sublist clients) : Recast serial clients none left
  | replaced {c : Client} (hserial : c.serial = serial) (hknown : c.pid ∈ clients.map (·.pid)) :
    Recast serial clients none (replaceClient c clients)
  | added {c : Client} (hserial : c.serial = serial) (hnew : c.pid ∉ clients.map (·.pid)) :
    Recast serial clients (some c.pid) (clients ++ [c])

theorem Recast.unchanged : Recast serial clients none clients := .fewer (List.Sublist.refl _)

/-- An edit that takes clients away, if it does anything to them. -/
theorem Recast.of_edit {α : Type} {what : Change} {f : Record → Edit α} {k : String}
    (hf : ∀ r, (f r).record.clients.Sublist r.clients) :
    Recast serial (reg.clients serial) none ((reg.edit k what f).registry.clients serial) := by
  refine .fewer ?_
  by_cases hk : serial = k
  · subst hk
    cases hr : reg.records.get? serial with
    | none => rw [edit_of_unknown f hr]
    | some r =>
      rw [clients_edit hr, clients_of_get? hr]
      exact hf r
  · rw [clients_edit_of_ne hk]

/-- An edit of something else. -/
theorem Recast.of_edit_of_clients {α : Type} {what : Change} {f : Record → Edit α} {k : String}
    (hf : ∀ r, (f r).record.clients = r.clients) :
    Recast serial (reg.clients serial) none ((reg.edit k what f).registry.clients serial) :=
  .of_edit fun r => by rw [hf]

theorem clients_clientRemoved_sublist (pid : UInt32) (r : Record) :
    (clientRemoved pid r).record.clients.Sublist r.clients := by
  unfold clientRemoved
  split
  · exact List.eraseP_sublist
  · exact List.Sublist.refl _

theorem recast_addClient (reg : Registry) (serial : String) (c : Client) :
    Recast serial (reg.clients serial) (reg.newcomer? serial (.addClient c))
      ((reg.addClient c).registry.clients serial) := by
  rw [addClient, newcomer?]
  by_cases hserial : c.serial = serial
  · subst hserial
    cases hr : reg.records.get? c.serial with
    | none =>
      rw [edit_of_unknown _ hr, if_neg (by simp)]
      exact .unchanged
    | some r =>
      rw [clients_edit hr, record_clientAdded, enroll, pids, clients_of_get? hr]
      by_cases hknown : c.pid ∈ r.clients.map (·.pid)
      · rw [if_neg (by simp [hknown]), if_pos hknown]
        exact .replaced rfl hknown
      · rw [if_pos (by simp [hknown]), if_neg hknown]
        exact .added rfl hknown
  · rw [if_neg fun h => hserial h.1, clients_edit_of_ne (Ne.symm hserial)]
    exact .unchanged

theorem recast_perform (reg : Registry) (serial : String) (op : Operation) :
    Recast serial (reg.clients serial) (reg.newcomer? serial op)
      ((reg.perform op).1.clients serial) := by
  cases op with
  | applyList list =>
    rcases clients_applyList reg list serial with h | h
    · exact h.symm ▸ .unchanged
    · exact h.symm ▸ .fewer (List.nil_sublist _)
  | clear => exact .fewer (List.nil_sublist _)
  | addClient c => exact recast_addClient reg serial c
  | removeClient k pid => exact .of_edit (clients_clientRemoved_sublist pid)
  | retainClients | clearClients =>
    refine .of_edit fun r => ?_
    rw [clients_clientsKept]
    exact List.filter_sublist
  | setProperties | setMountPoint | setAvdName =>
    exact .of_edit_of_clients (clients_setUnless fun _ => rfl)

/-! ## What every history preserves -/

theorem sublist_dedup_append_singleton {pids : List UInt32} (h : pids.Sublist added.dedup)
    (hnew : pid ∉ pids) : (pids ++ [pid]).Sublist (added ++ [pid]).dedup := by
  induction added generalizing pids with
  | nil =>
    rw [List.dedup_nil, List.sublist_nil] at h
    rw [h]
    exact List.Sublist.refl _
  | cons a added ih =>
    rw [List.cons_append]
    by_cases ha : a ∈ added
    · rw [List.dedup_cons_of_mem ha] at h
      rw [List.dedup_cons_of_mem (List.mem_append_left _ ha)]
      exact ih h hnew
    rw [List.dedup_cons_of_notMem ha] at h
    by_cases hpid : a = pid
    · -- The first number is the one that comes again, and counts no longer.
      subst hpid
      rw [List.dedup_cons_of_mem (List.mem_append_right _ (List.mem_singleton_self a))]
      cases h with
      | cons _ h => exact ih h hnew
      | cons_cons => exact absurd List.mem_cons_self hnew
    · have hmore : a ∉ added ++ [pid] := by simp [ha, hpid]
      rw [List.dedup_cons_of_notMem hmore]
      cases h with
      | cons _ h => exact (ih h hnew).cons a
      | cons_cons _ h =>
        exact (ih h fun hmem => hnew (List.mem_cons_of_mem _ hmem)).cons_cons a

/-- The clients of a device to which some process numbers were newly added, in this order. Of equal
numbers the last one counts. -/
structure Clientele (serial : String) (added : List UInt32) (clients : List Client) : Prop where
  own : ∀ c ∈ clients, c.serial = serial
  ordered : (clients.map (·.pid)).Sublist added.dedup

theorem Clientele.nodup (h : Clientele serial added clients) : (clients.map (·.pid)).Nodup :=
  h.ordered.nodup (List.nodup_dedup added)

theorem Clientele.recast (h : Clientele serial added clients) {new : Option UInt32}
    {clients' : List Client} (hr : Recast serial clients new clients') :
    Clientele serial (added ++ new.toList) clients' := by
  cases hr with
  | fewer hleft =>
    rw [Option.toList_none, List.append_nil]
    exact ⟨fun c hc => h.own c (hleft.subset hc), (hleft.map _).trans h.ordered⟩
  | replaced hserial hknown =>
    rw [Option.toList_none, List.append_nil]
    refine ⟨fun x hx => ?_, by rw [map_pid_replaceClient]; exact h.ordered⟩
    rcases mem_replaceClient hx with rfl | hx
    · exact hserial
    · exact h.own x hx
  | added hserial hnew =>
    refine ⟨fun x hx => ?_, ?_⟩
    · rcases List.mem_append.1 hx with hx | hx
      · exact h.own x hx
      · rw [List.mem_singleton.1 hx, hserial]
    · rw [List.map_append, Option.toList_some]
      exact sublist_dedup_append_singleton h.ordered hnew

theorem Clientele.performAll (h : Clientele serial added (reg.clients serial))
    (ops : List Operation) :
    Clientele serial (added ++ newcomers reg serial ops)
      ((reg.performAll ops).1.clients serial) := by
  induction ops generalizing reg added with
  | nil =>
    rw [newcomers, List.append_nil]
    exact h
  | cons op ops ih =>
    rw [newcomers, ← List.append_assoc, performAll_cons]
    exact ih (h.recast (recast_perform reg serial op))

/-! ## The operations on clients -/

theorem result_removeClient (reg : Registry) (serial : String) (pid : UInt32) :
    (reg.removeClient serial pid).result = (reg.clients serial).find? (·.pid == pid) := by
  rw [removeClient]
  cases hr : reg.records.get? serial with
  | none => rw [edit_of_unknown _ hr, clients_of_unknown hr]; rfl
  | some r =>
    simp only [result_edit _ hr, clients_of_get? hr, Option.join_some]
    unfold clientRemoved
    split
    · rename_i c hfind
      exact hfind.symm
    · rename_i hnone
      exact hnone.symm

theorem clients_removeClient (reg : Registry) (serial : String) (pid : UInt32) :
    (reg.removeClient serial pid).registry.clients serial =
      (reg.clients serial).eraseP (·.pid == pid) := by
  rw [removeClient]
  cases hr : reg.records.get? serial with
  | none => rw [edit_of_unknown _ hr, clients_of_unknown hr]; rfl
  | some r =>
    simp only [clients_edit hr, clients_of_get? hr]
    unfold clientRemoved
    split
    · rfl
    · rename_i hnone
      rw [List.eraseP_of_forall_not (by simpa using hnone)]

theorem result_clientsKept (reg : Registry) (serial : String) (p : Client → Bool) :
    (reg.edit serial .clientList (clientsKept p)).result.getD [] =
      (reg.clients serial).filter (! p ·) := by
  cases hr : reg.records.get? serial with
  | none => rw [edit_of_unknown _ hr, clients_of_unknown hr]; rfl
  | some r =>
    rw [result_edit _ hr, clients_of_get? hr, clientsKept, List.partition_eq_filter_filter]
    rfl

theorem clients_edit_clientsKept (reg : Registry) (serial : String) (p : Client → Bool) :
    (reg.edit serial .clientList (clientsKept p)).registry.clients serial =
      (reg.clients serial).filter p := by
  cases hr : reg.records.get? serial with
  | none => rw [edit_of_unknown _ hr, clients_of_unknown hr]; rfl
  | some r => rw [clients_edit hr, clients_clientsKept, clients_of_get? hr]

/-- Are these the clients that have left, each told once? -/
def HaveLeft (before after left : List Client) : Prop :=
  left.Nodup ∧ ∀ c, c ∈ left ↔ c ∈ before ∧ c ∉ after

theorem haveLeft_filter (h : clients.Nodup) (p : Client → Bool) :
    HaveLeft clients (clients.filter p) (clients.filter (! p ·)) := by
  refine ⟨h.filter _, fun c => ?_⟩
  rw [List.mem_filter, List.mem_filter]
  constructor
  · rintro ⟨hc, hp⟩
    exact ⟨hc, fun h => by simp [h.2] at hp⟩
  · rintro ⟨hc, hp⟩
    exact ⟨hc, by simpa [hc] using hp⟩

/-- **Main theorem.** After any operations, the clients of a device have different process numbers and
the device's own serial, and they are in the order in which their numbers were last newly added. A
client that is added in the place of another one leaves all others where they are. The client that is
removed by its number is the one client with that number; clients that are removed together are told
to the caller, each of them once. -/
theorem performAll_clients (ops : List Operation) (serial : String) :
    let reg := (empty.performAll ops).1
    let clients := reg.clients serial
    (clients.map (·.pid)).Nodup ∧
    (∀ c ∈ clients, c.serial = serial) ∧
    (clients.map (·.pid)).Sublist (newcomers empty serial ops).dedup ∧
    (∀ c, c.serial = serial → c.pid ∈ clients.map (·.pid) →
      (reg.addClient c).registry.clients serial =
        clients.map fun x => if x.pid = c.pid then c else x) ∧
    (∀ pid,
      (∀ c, (reg.removeClient serial pid).result = some c ↔ c ∈ clients ∧ c.pid = pid) ∧
      (reg.removeClient serial pid).registry.clients serial = clients.filter (·.pid != pid)) ∧
    (∀ pids, let u := reg.retainClients serial pids
      u.registry.clients serial = clients.filter (pids.contains ·.pid) ∧
      HaveLeft clients (u.registry.clients serial) u.result) ∧
    let u := reg.clearClients serial
    u.registry.clients serial = [] ∧ HaveLeft clients (u.registry.clients serial) u.result := by
  intro reg clients
  have hempty : Clientele serial [] (empty.clients serial) := ⟨nofun, List.nil_sublist _⟩
  have hclientele : Clientele serial (newcomers empty serial ops) clients := hempty.performAll ops
  have hnodup := hclientele.nodup
  have hkept (p : Client → Bool) :
      let u := reg.edit serial .clientList (clientsKept p)
      u.registry.clients serial = clients.filter p ∧
        HaveLeft clients (u.registry.clients serial) (u.result.getD []) := by
    intro u
    rw [clients_edit_clientsKept, result_clientsKept]
    exact ⟨rfl, haveLeft_filter hnodup.of_map p⟩
  refine ⟨hnodup, hclientele.own, hclientele.ordered, fun c hserial hknown => ?_,
    fun pid => ⟨fun c => ?_, ?_⟩, fun pids => hkept _, ?_⟩
  · subst hserial
    obtain ⟨r, hr⟩ : ∃ r, reg.records.get? c.serial = some r := by
      cases hr : reg.records.get? c.serial with
      | none => simp [clients, clients_of_unknown hr] at hknown
      | some r => exact ⟨r, rfl⟩
    have hclients : clients = r.clients := clients_of_get? hr
    rw [hclients] at hknown hnodup ⊢
    rw [addClient, clients_edit hr, record_clientAdded, enroll, if_pos hknown,
      replaceClient_eq_map hnodup]
  · rw [result_removeClient, find?_pid_eq_some_iff hnodup]
  · rw [clients_removeClient, eraseP_pid_eq_filter hnodup]
  · exact ⟨clients_clearClients reg serial, (hkept fun _ => false).2⟩

/-- A process number that was removed and added again goes to the back. -/
example :
    let ops := [.applyList [⟨"s", .online⟩], .addClient ⟨7, "s", none, none⟩,
      .addClient ⟨8, "s", none, none⟩, .removeClient "s" 7, .addClient ⟨7, "s", none, none⟩]
    (newcomers empty "s" ops, (empty.performAll ops).1.pids "s") = ([7, 8, 7], [8, 7]) := by
  decide

end Registry

end DebugBridge
