import DebugBridge.Registry.Operation
import DebugBridge.Registry.Replica
import Mathlib.Tactic.Set
import Mathlib.Tactic.SplitIfs

/-!
# The published events tell all there is to know

Whoever folds the events of a registry over an empty replica knows exactly what the registry knows,
after every operation. No event is missing, early, late or idle: each fits the replica at its moment.

A device list is told in another order than it is worked off, changes of state last. That loses
nothing, since an arrival concerns a serial that no earlier change can have named
(`LeadsTo.arrival_before`).

Results:
* `leadsTo_perform`: the events of one operation lead from the replica of the registry before it to the
  one after it.
* `performAll_replica`: so do the events of any history that begins with no devices.
-/

namespace DebugBridge

/-- To put a value where it is already changes nothing. -/
theorem Dict.insert_of_get? {α : Type} {d : Dict α} {k : String} {v : α} (h : d.get? k = some v) :
    d.insert k v = d := by
  apply Dict.ext_get?
  intro k'
  rw [Dict.get?_insert]
  split_ifs with hk
  · rw [hk, h]
  · rfl

namespace Replica

variable {m m' m'' : Replica} {events more : List Event}

/-- Each event fits, and together they turn one replica into the other. -/
def LeadsTo (m : Replica) (events : List Event) (m' : Replica) : Prop :=
  m.FitsAll events ∧ m.applyAll events = m'

@[simp] theorem applyAll_nil : m.applyAll [] = m := rfl

@[simp] theorem applyAll_cons {e : Event} :
    m.applyAll (e :: events) = (m.apply e).applyAll events := rfl

theorem LeadsTo.nil : m.LeadsTo [] m := ⟨trivial, rfl⟩

theorem LeadsTo.cons {e : Event} (he : m.Fits e) (h : (m.apply e).LeadsTo events m') :
    m.LeadsTo (e :: events) m' :=
  ⟨⟨he, h.1⟩, h.2⟩

theorem LeadsTo.append (h : m.LeadsTo events m') (h' : m'.LeadsTo more m'') :
    m.LeadsTo (events ++ more) m'' := by
  induction events generalizing m with
  | nil =>
    obtain ⟨-, rfl⟩ := h
    exact h'
  | cons e events ih =>
    obtain ⟨⟨he, hf⟩, ha⟩ := h
    exact LeadsTo.cons he (ih ⟨hf, ha⟩)

theorem LeadsTo.of_append (h : m.LeadsTo (events ++ more) m') :
    m.LeadsTo events (m.applyAll events) ∧ (m.applyAll events).LeadsTo more m' := by
  induction events generalizing m with
  | nil => exact ⟨LeadsTo.nil, h⟩
  | cons e events ih =>
    obtain ⟨⟨he, hf⟩, ha⟩ := h
    obtain ⟨h1, h2⟩ := ih ⟨hf, ha⟩
    exact ⟨LeadsTo.cons he h1, h2⟩

/-! ## Changes and arrivals commute -/

/-- Events of changed states only. -/
def ChangesOnly (events : List Event) : Prop := ∀ e ∈ events, ∃ d, e = .changed d .state

theorem insert_insert_comm {s t : String} (hst : s ≠ t) (d e : Snapshot) :
    (m.insert s d).insert t e = (m.insert t e).insert s d := by
  apply Dict.ext_get?
  intro k
  simp only [Dict.get?_insert]
  split_ifs with h1 h2
  · exact absurd (h2.symm.trans h1) hst
  · rfl
  · rfl
  · rfl

/-- Changes of state bring no serial. -/
theorem LeadsTo.get?_eq_none {s : String} (h : m.LeadsTo events m') (hc : ChangesOnly events)
    (hs : m'.get? s = none) : m.get? s = none := by
  induction events generalizing m with
  | nil =>
    obtain ⟨-, rfl⟩ := h
    exact hs
  | cons e events ih =>
    obtain ⟨⟨he, hf⟩, ha⟩ := h
    obtain ⟨c, rfl⟩ := hc e List.mem_cons_self
    have hnext := ih ⟨hf, ha⟩ fun e he => hc e (List.mem_cons_of_mem _ he)
    simp only [apply, Dict.get?_insert] at hnext
    split_ifs at hnext with hsc
    exact hnext

theorem LeadsTo.insert {s : String} {d : Snapshot} (hs : m.get? s = none)
    (hc : ChangesOnly events) (h : m.LeadsTo events m') :
    LeadsTo (m.insert s d) events (m'.insert s d) := by
  induction events generalizing m with
  | nil =>
    obtain ⟨-, rfl⟩ := h
    exact LeadsTo.nil
  | cons e events ih =>
    obtain ⟨⟨he, hf⟩, ha⟩ := h
    obtain ⟨c, rfl⟩ := hc e List.mem_cons_self
    have hne : s ≠ c.serial := by
      obtain ⟨old, hold, -⟩ := he
      rintro rfl
      rw [hs] at hold
      cases hold
    have hfits : Fits (m.insert s d) (.changed c .state) := by
      obtain ⟨old, hold, hrest⟩ := he
      exact ⟨old, by rw [Dict.get?_insert, if_neg hne.symm, hold], hrest⟩
    refine LeadsTo.cons hfits ?_
    have := ih (m := m.insert c.serial c) (by rw [Dict.get?_insert, if_neg hne, hs])
      (fun e he => hc e (List.mem_cons_of_mem _ he)) ⟨hf, ha⟩
    rwa [← insert_insert_comm hne] at this

/-- The event of an arrival may be put before those of changes that went before it. -/
theorem LeadsTo.arrival_before {arrivals changes : List Event} {d : Snapshot}
    (h : m.LeadsTo (arrivals ++ changes) m') (hc : ChangesOnly changes)
    (hd : m'.get? d.serial = none) :
    m.LeadsTo ((arrivals ++ [.connected d]) ++ changes) (m'.insert d.serial d) := by
  obtain ⟨ha, hch⟩ := h.of_append
  have hmid : (m.applyAll arrivals).get? d.serial = none := hch.get?_eq_none hc hd
  have harrival : LeadsTo (m.applyAll arrivals) [.connected d]
      ((m.applyAll arrivals).insert d.serial d) := LeadsTo.cons hmid LeadsTo.nil
  exact (ha.append harrival).append (hch.insert hmid hc)

end Replica

namespace Registry

open Replica

variable {reg : Registry}

theorem get?_replica (reg : Registry) (serial : String) :
    reg.replica.get? serial = (reg.records.get? serial).map (·.snapshot serial) :=
  Dict.get?_mapWithKey _ _ _

theorem replica_insert (records : Dict Record) (serial : String) (r : Record) :
    replica ⟨records.insert serial r⟩ = (replica ⟨records⟩).insert serial (r.snapshot serial) := by
  apply Dict.ext_get?
  intro k
  rw [get?_replica, Dict.get?_insert, Dict.get?_insert, get?_replica]
  split_ifs with h
  · rw [h]; rfl
  · rfl

/-! ## Farewells -/

theorem apply_farewell (m : Replica) (serial : String) (r : Record) :
    m.apply (farewell serial r) = m.erase serial := rfl

theorem leadsTo_farewells (entries : List (String × Record))
    (hdistinct : entries.Pairwise fun a b => a.1 < b.1) (m m' : Replica)
    (hm : ∀ e ∈ entries, m.get? e.1 = some (e.2.snapshot e.1))
    (hm' : ∀ k, m'.get? k = if k ∈ entries.map (·.1) then none else m.get? k) :
    m.LeadsTo (entries.map fun e => farewell e.1 e.2) m' := by
  induction entries generalizing m with
  | nil =>
    have : m = m' := Dict.ext_get? fun k => by rw [hm']; simp
    exact this ▸ LeadsTo.nil
  | cons e entries ih =>
    obtain ⟨he, hrest⟩ := List.pairwise_cons.1 hdistinct
    refine LeadsTo.cons ⟨_, hm e List.mem_cons_self, rfl⟩ (ih hrest _ ?_ ?_)
    · intro x hx
      have hne : x.1 ≠ e.1 := fun h => String.lt_irrefl _ (h ▸ he x hx)
      rw [apply_farewell, Dict.get?_erase, if_neg hne, hm x (List.mem_cons_of_mem _ hx)]
    · intro k
      rw [hm', apply_farewell, Dict.get?_erase]
      by_cases hk : k = e.1
      · simp [hk]
      · simp only [List.map_cons, List.mem_cons, hk, false_or, if_false]

/-- The farewells of the devices that do not pass a test. -/
theorem leadsTo_filterKeys (reg : Registry) (p : String → Bool) :
    reg.replica.LeadsTo
      ((reg.records.filterKeys fun k => ! p k).entries.map fun e => farewell e.1 e.2)
      (replica ⟨reg.records.filterKeys p⟩) := by
  have hget : ∀ e ∈ (reg.records.filterKeys fun k => ! p k).entries,
      reg.records.get? e.1 = some e.2 ∧ p e.1 = false := by
    intro e he
    have := Dict.mem_entries_iff.1 he
    rw [Dict.get?_filterKeys] at this
    split_ifs at this with h
    exact ⟨this, by simpa using h⟩
  apply leadsTo_farewells _ (Dict.ascending _)
  · intro e he
    rw [get?_replica, (hget e he).1]; rfl
  · intro k
    rw [get?_replica, get?_replica, Dict.get?_filterKeys]
    split_ifs with hp hk hk
    · obtain ⟨e, he, rfl⟩ := List.mem_map.1 hk
      exact absurd hp (by simp [(hget e he).2])
    · rfl
    · rfl
    · -- a serial that fails the test and has no farewell is not known at all
      cases hr : reg.records.get? k with
      | none => rfl
      | some r =>
        refine absurd (List.mem_map.2 ⟨(k, r), Dict.mem_entries_iff.2 ?_, rfl⟩) hk
        rw [Dict.get?_filterKeys, hr]; simp [hp]

/-! ## The pass over a device list -/

/-- What holds after some lines of a device list, which was begun with the records of `start`. -/
structure Pass.Told (start : Replica) (p : Pass) : Prop where
  leads : start.LeadsTo (p.arrivals ++ p.changes) (replica ⟨p.records⟩)
  changesOnly : ChangesOnly p.changes

theorem Pass.Told.line {start : Replica} {p : Pass} (h : Pass.Told start p) (l : Listed) :
    Pass.Told start (p.line l) := by
  unfold Pass.line
  cases hr : p.records.get? l.serial with
  | none =>
    refine ⟨?_, h.changesOnly⟩
    have := h.leads.arrival_before (d := (Record.fresh l.state).snapshot l.serial) h.changesOnly
      (by rw [get?_replica]; simp [hr])
    simpa only [replica_insert, Record.serial_snapshot] using this
  | some r =>
    by_cases hs : r.state = l.state
    · simpa [hs] using h
    · simp only [hs, if_false]
      set r' : Record := { r with state := l.state }
      have hknown : (replica ⟨p.records⟩).get? l.serial = some (r.snapshot l.serial) := by
        rw [get?_replica, hr]; rfl
      have hchange : (replica ⟨p.records⟩).LeadsTo [.changed (r'.snapshot l.serial) .state]
          (replica ⟨p.records.insert l.serial r'⟩) := by
        rw [replica_insert]
        refine LeadsTo.cons ⟨_, hknown, ?_, rfl⟩ LeadsTo.nil
        intro he
        exact hs (congrArg Snapshot.state he).symm
      refine ⟨?_, ?_⟩
      · rw [← List.append_assoc]; exact h.leads.append hchange
      · intro e he
        rcases List.mem_append.1 he with he | he
        · exact h.changesOnly e he
        · exact ⟨_, List.mem_singleton.1 he⟩

theorem Pass.Told.foldl {start : Replica} {p : Pass} (h : Pass.Told start p) (list : List Listed) :
    Pass.Told start (list.foldl Pass.line p) := by
  induction list generalizing p with
  | nil => exact h
  | cons l list ih => exact ih (h.line l)

theorem leadsTo_applyList (reg : Registry) (list : List Listed) :
    reg.replica.LeadsTo (reg.applyList list).events (reg.applyList list).registry.replica := by
  have hgone := leadsTo_filterKeys reg fun serial => list.any (·.serial == serial)
  set stay := reg.records.filterKeys fun serial => list.any (·.serial == serial)
  have hbegun : Pass.Told (replica ⟨stay⟩) ⟨stay, [], []⟩ :=
    ⟨LeadsTo.nil, fun _ h => absurd h List.not_mem_nil⟩
  simpa [applyList] using hgone.append (hbegun.foldl list).leads

theorem leadsTo_clear (reg : Registry) :
    reg.replica.LeadsTo reg.clear.events reg.clear.registry.replica := by
  have := leadsTo_filterKeys reg fun _ => false
  have hall : reg.records.filterKeys (fun _ => ! false) = reg.records :=
    Dict.ext_get? fun k => by simp [Dict.get?_filterKeys]
  have hnone : reg.records.filterKeys (fun _ => false) = .empty :=
    Dict.ext_get? fun k => by simp [Dict.get?_filterKeys]
  rwa [hall, hnone] at this

/-! ## Edits -/

/-- An edit that tells the truth: it reports a change exactly if it makes one, and touches nothing but
the part of the record that its kind of change names. -/
structure Truthful (what : Change) {α : Type} (f : Record → Edit α) : Prop where
  unchanged : ∀ r, (f r).changed = false → (f r).record = r
  changed : ∀ r, (f r).changed = true → (f r).record ≠ r
  agrees : ∀ (r : Record) (serial : String),
    (r.snapshot serial).AgreesBut what ((f r).record.snapshot serial)

theorem snapshot_injective {r r' : Record} {serial : String}
    (h : r.snapshot serial = r'.snapshot serial) : r = r' := by
  cases r
  cases r'
  simp only [Record.snapshot, Snapshot.mk.injEq, true_and] at h
  obtain ⟨rfl, rfl, rfl, rfl, rfl⟩ := h
  rfl

theorem replaceClient_ne {c old : Client} {l : List Client}
    (h : l.find? (·.pid == c.pid) = some old) (hne : old ≠ c) : replaceClient c l ≠ l := by
  induction l with
  | nil => cases h
  | cons x rest ih =>
    by_cases hx : x.pid = c.pid
    · have : x = old := by simpa [List.find?_cons, hx] using h
      subst this
      simpa [replaceClient, hx] using hne.symm
    · have hrest : rest.find? (·.pid == c.pid) = some old := by
        simpa [List.find?_cons, hx] using h
      simpa [replaceClient, hx] using ih hrest

theorem truthful_clientAdded (c : Client) : Truthful .clientList (clientAdded c) := by
  constructor
  · intro r h
    unfold clientAdded at h ⊢
    split at h
    · split_ifs at h ⊢ with hold
      rfl
    · cases h
  · intro r h
    unfold clientAdded at h ⊢
    split at h
    · rename_i old hfind
      split_ifs at h ⊢ with hold
      exact fun he => replaceClient_ne hfind hold (congrArg Record.clients he)
    · exact fun he => by simpa using congrArg Record.clients he
  · intro r serial
    unfold clientAdded
    split
    · split_ifs <;> rfl
    · rfl

theorem truthful_clientRemoved (pid : UInt32) : Truthful .clientList (clientRemoved pid) := by
  constructor
  · intro r h
    unfold clientRemoved at h ⊢
    split at h
    · cases h
    · rfl
  · intro r h
    unfold clientRemoved at h ⊢
    split at h
    · rename_i c hfind
      intro he
      have hlen := congrArg (fun r => r.clients.length) he
      have hpos := List.length_pos_of_mem (List.mem_of_find?_eq_some hfind)
      rw [List.length_eraseP_of_mem (List.mem_of_find?_eq_some hfind)
        (List.find?_some hfind)] at hlen
      omega
    · cases h
  · intro r serial
    unfold clientRemoved
    split <;> rfl

theorem truthful_clientsKept (p : Client → Bool) : Truthful .clientList (clientsKept p) := by
  constructor
  · intro r h
    have hall : ∀ c ∈ r.clients, p c = true := by
      simpa [clientsKept, List.partition_eq_filter_filter, List.filter_eq_nil_iff] using h
    simp [clientsKept, List.partition_eq_filter_filter, List.filter_eq_self.2 hall]
  · intro r h he
    have hall := List.filter_eq_self.1 (show r.clients.filter p = r.clients by
      simpa [clientsKept, List.partition_eq_filter_filter] using congrArg Record.clients he)
    obtain ⟨c, hc, hp⟩ : ∃ c ∈ r.clients, p c = false := by
      simpa [clientsKept, List.partition_eq_filter_filter, List.filter_eq_nil_iff] using h
    rw [hall c hc] at hp
    cases hp
  · intro r serial
    rfl

theorem truthful_setUnless {what : Change} {same : Record → Bool} {set : Record → Record}
    (hset : ∀ r, same r = false → set r ≠ r)
    (hagrees : ∀ (r : Record) (serial : String),
      (r.snapshot serial).AgreesBut what ((set r).snapshot serial))
    (hrefl : ∀ s : Snapshot, s.AgreesBut what s) : Truthful what (setUnless same set) := by
  constructor
  · intro r h
    unfold setUnless at h ⊢
    split_ifs at h ⊢
    rfl
  · intro r h
    unfold setUnless at h ⊢
    split_ifs at h ⊢ with hs
    exact hset r (by simpa using hs)
  · intro r serial
    unfold setUnless
    split_ifs
    · exact hrefl _
    · exact hagrees r serial

theorem truthful_propertiesSet (properties : Dict String) :
    Truthful .buildInfo (propertiesSet properties) := by
  refine truthful_setUnless (fun r h he => ?_) (fun _ _ => rfl) (fun _ => rfl)
  have : properties = r.properties := congrArg Record.properties he
  simp [this] at h

theorem truthful_mountPointSet (name path : String) :
    Truthful .buildInfo (mountPointSet name path) := by
  refine truthful_setUnless (fun r h he => ?_) (fun _ _ => rfl) (fun _ => rfl)
  have : (r.mountPoints.insert name path).get? name = r.mountPoints.get? name :=
    congrArg (fun r => r.mountPoints.get? name) he
  rw [Dict.get?_insert, if_pos rfl] at this
  simp [← this] at h

theorem truthful_avdNameSet (name : String) : Truthful .buildInfo (avdNameSet name) := by
  refine truthful_setUnless (fun r h he => ?_) (fun _ _ => rfl) (fun _ => rfl)
  have : some name = r.avdName := congrArg Record.avdName he
  simp [← this] at h

theorem Truthful.leadsTo {what : Change} {α : Type} {f : Record → Edit α} (hf : Truthful what f)
    (reg : Registry) (serial : String) :
    reg.replica.LeadsTo (reg.edit serial what f).events
      (reg.edit serial what f).registry.replica := by
  unfold edit
  cases hr : reg.records.get? serial with
  | none => exact LeadsTo.nil
  | some r =>
    have hknown : reg.replica.get? serial = some (r.snapshot serial) := by
      rw [get?_replica, hr]; rfl
    simp only
    cases hc : (f r).changed with
    | false =>
      rw [hf.unchanged r hc, Dict.insert_of_get? hr]
      exact LeadsTo.nil
    | true =>
      rw [replica_insert]
      refine LeadsTo.cons ⟨_, hknown, ?_, hf.agrees r serial⟩ LeadsTo.nil
      exact fun he => hf.changed r hc (snapshot_injective he)

/-! ## Histories -/

/-- What is published by an operation leads from the replica before it to the one after it. -/
theorem leadsTo_perform (reg : Registry) (op : Operation) :
    reg.replica.LeadsTo (reg.perform op).2 (reg.perform op).1.replica := by
  cases op with
  | applyList list => exact leadsTo_applyList reg list
  | clear => exact leadsTo_clear reg
  | addClient c => exact (truthful_clientAdded c).leadsTo reg c.serial
  | removeClient serial pid => exact (truthful_clientRemoved pid).leadsTo reg serial
  | retainClients serial pids => exact (truthful_clientsKept _).leadsTo reg serial
  | clearClients serial => exact (truthful_clientsKept _).leadsTo reg serial
  | setProperties serial properties => exact (truthful_propertiesSet properties).leadsTo reg serial
  | setMountPoint serial name path => exact (truthful_mountPointSet name path).leadsTo reg serial
  | setAvdName serial name => exact (truthful_avdNameSet name).leadsTo reg serial

theorem leadsTo_performAll (reg : Registry) (ops : List Operation) :
    reg.replica.LeadsTo (reg.performAll ops).2 (reg.performAll ops).1.replica := by
  induction ops generalizing reg with
  | nil => exact LeadsTo.nil
  | cons op ops ih => exact (leadsTo_perform reg op).append (ih (reg.perform op).1)

theorem devices_replica (reg : Registry) : reg.replica.devices = reg.devices := by
  simp [Replica.devices, replica, Dict.mapWithKey, devices]

/-- **Main theorem.** After every history of a registry that begins with no devices, the events
published so far, folded over an empty replica, give exactly its devices. Each of them fits the replica
that has taken in those before it. -/
theorem performAll_replica (ops : List Operation) :
    (Replica.applyAll .empty (empty.performAll ops).2).devices = (empty.performAll ops).1.devices ∧
      Replica.FitsAll .empty (empty.performAll ops).2 := by
  obtain ⟨hfits, happly⟩ := leadsTo_performAll empty ops
  exact ⟨by rw [← devices_replica, ← happly]; rfl, hfits⟩

end Registry

end DebugBridge
