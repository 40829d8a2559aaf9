import DebugBridge.Proofs.Monitor.Tasks

/-!
# The devices with tasks are those online

The monitor does not look into the registry to know which devices are online. It heeds the events of
each device list, one after the other, and keeps tasks for a device from the event that tells that
it is online to the one that tells that it is not.

The invariant speaks of the events that are not yet heeded (`Follows`): if they were, there would be
tasks for the devices online and for no others. It is kept since the events of an operation lead
from what the registry knew before to what it knows after.
-/

namespace DebugBridge

/-! ## What events say of who is online -/

/-- Are there tasks for a device after an event, if there were some or none before? -/
def Event.keeps (serial : String) (kept : Bool) : Event → Bool
  | .connected d => kept || (d.serial == serial && d.isOnline)
  | .changed d .state => if d.serial = serial then d.isOnline else kept
  | .changed _ _ => kept
  | .disconnected d => kept && d.serial != serial

theorem Snapshot.AgreesBut.state_eq {what : Change} {old new : Snapshot}
    (h : old.AgreesBut what new) (hwhat : what ≠ .state) : new.state = old.state := by
  cases what with
  | state => exact absurd rfl hwhat
  | clientList =>
    have hnew : new = { old with clients := new.clients } := h
    exact (congrArg Snapshot.state hnew).trans rfl
  | buildInfo =>
    have hnew : new = { old with
      properties := new.properties, mountPoints := new.mountPoints, avdName := new.avdName } := h
    exact (congrArg Snapshot.state hnew).trans rfl

namespace Replica

variable {m m' : Replica} {events : List Event}

/-- Is a device online, as a replica knows it? -/
def isOnline (m : Replica) (serial : String) : Bool := ((m.get? serial).map (·.isOnline)).getD false

theorem isOnline_insert (d : Snapshot) (serial : String) :
    isOnline (m.insert d.serial d) serial =
      if d.serial = serial then d.isOnline else m.isOnline serial := by
  rw [isOnline, Dict.get?_insert]
  by_cases h : serial = d.serial
  · rw [if_pos h, if_pos h.symm]
    rfl
  · rw [if_neg h, if_neg (Ne.symm h), isOnline]

/-- An event that fits tells rightly who is online after it. -/
theorem keeps_of_fits {e : Event} (h : m.Fits e) (serial : String) :
    e.keeps serial (m.isOnline serial) = (m.apply e).isOnline serial := by
  cases e with
  | connected d =>
    have hnew : m.get? d.serial = none := h
    rw [apply, isOnline_insert, Event.keeps]
    by_cases hd : d.serial = serial
    · subst hd
      simp [isOnline, hnew]
    · simp [hd]
  | changed d what =>
    obtain ⟨old, hold, -, hagrees⟩ := h
    rw [apply, isOnline_insert]
    by_cases hd : d.serial = serial
    · subst hd
      cases what with
      | state => simp [Event.keeps]
      | clientList | buildInfo =>
        -- The event tells of something else, so it repeats the state that was known.
        have hstate : d.state = old.state := hagrees.state_eq (by decide)
        simp [Event.keeps, isOnline, hold, Snapshot.isOnline, hstate]
    · cases what <;> simp [Event.keeps, hd]
  | disconnected d =>
    rw [apply, isOnline, isOnline, Dict.get?_erase, Event.keeps]
    by_cases hd : serial = d.serial
    · simp [hd]
    · simp [hd, bne_iff_ne.2 (Ne.symm hd)]

theorem LeadsTo.keeps (h : m.LeadsTo events m') (serial : String) :
    events.foldl (Event.keeps serial) (m.isOnline serial) = m'.isOnline serial := by
  induction events generalizing m with
  | nil =>
    obtain ⟨-, rfl⟩ := h
    rfl
  | cons e events ih =>
    obtain ⟨⟨he, hf⟩, ha⟩ := h
    rw [List.foldl_cons, keeps_of_fits he]
    exact ih ⟨hf, ha⟩

end Replica

theorem Registry.isOnline_replica (reg : Registry) (serial : String) :
    reg.replica.isOnline serial = reg.isOnline serial := by
  rw [Replica.isOnline, get?_replica, isOnline_eq]
  cases reg.records.get? serial with
  | none => rfl
  | some r => simp [Record.snapshot, Snapshot.isOnline]

/-- The event of a job, if it is to heed one. -/
def MonitorJob.event? : MonitorJob → Option Event
  | .handle e => some e
  | _ => none

namespace System

variable {s s' : System} {serial : String}

/-- The events that the monitor has yet to heed. -/
def pending (s : System) : List Event := s.agenda.filterMap (·.event?)

/-- Once all events are heeded, there are tasks for the devices online and for no others. -/
def Follows (s : System) : Prop :=
  ∀ serial, s.pending.foldl (Event.keeps serial) (s.kept.get? serial).isSome =
    s.shared.registry.isOnline serial

/-! ## Events that are heeded -/

theorem isSome_kept_bringOnline (s : System) (k : String) :
    ((s.bringOnline k).kept.get? serial).isSome = ((s.kept.get? serial).isSome || k == serial) := by
  unfold bringOnline
  cases hk : s.kept.get? k with
  | none =>
    rw [Dict.get?_insert]
    split_ifs with h
    · simp [h]
    · simp [Ne.symm h]
  | some numbers =>
    by_cases h : k = serial
    · simp [← h, hk]
    · simp [h]

theorem isSome_kept_takeOffline (s : System) (k : String) :
    ((s.takeOffline k).kept.get? serial).isSome = ((s.kept.get? serial).isSome && k != serial) := by
  unfold takeOffline
  cases hk : s.kept.get? k with
  | none =>
    by_cases h : k = serial
    · simp [← h, hk]
    · simp [bne_iff_ne.2 h]
  | some numbers =>
    simp only [Dict.get?_erase]
    split_ifs with h
    · simp [h]
    · simp [bne_iff_ne.2 (Ne.symm h)]

theorem isSome_kept_handle (s : System) (e : Event) :
    ((s.handle e).1.kept.get? serial).isSome = e.keeps serial (s.kept.get? serial).isSome := by
  cases e with
  | connected d =>
    rw [handle, Event.keeps]
    cases hd : d.isOnline with
    | true => simp [isSome_kept_bringOnline]
    | false => simp
  | changed d what =>
    cases what with
    | state =>
      rw [handle, Event.keeps]
      cases hd : d.isOnline with
      | true =>
        by_cases h : d.serial = serial <;> simp [isSome_kept_bringOnline, h]
      | false =>
        by_cases h : d.serial = serial
        · simp [isSome_kept_takeOffline, h]
        · simp [isSome_kept_takeOffline, h, bne_iff_ne.2 h]
    | clientList | buildInfo => rfl
  | disconnected d => exact isSome_kept_takeOffline s d.serial

/-! ## The events in the monitor's agenda -/

theorem events_map_handle (events : List Event) :
    (events.map MonitorJob.handle).filterMap (·.event?) = events := by
  rw [List.filterMap_map]
  exact List.filterMap_some

theorem events_releases (clients : List Client) :
    (MonitorJob.releases clients).filterMap (·.event?) = [] := by
  refine List.filterMap_eq_nil_iff.2 fun job hjob => ?_
  obtain ⟨port, rfl⟩ := Client.eq_release_of_mem hjob
  rfl

theorem events_lastReleases (events : List Event) :
    (lastReleases events).filterMap (·.event?) = [] := by
  refine List.filterMap_eq_nil_iff.2 fun job hjob => ?_
  obtain ⟨e, -, he⟩ := List.mem_flatMap.1 hjob
  cases e with
  | disconnected d => exact List.filterMap_eq_nil_iff.1 (events_releases d.clients) job he
  | connected | changed => cases he

/-- To heed an event leaves no other one to heed. -/
theorem events_handle (s : System) (e : Event) : (s.handle e).2.filterMap (·.event?) = [] := by
  cases e with
  | connected d => rfl
  | changed d what =>
    cases what with
    | state =>
      rw [handle]
      split_ifs <;> rfl
    | clientList | buildInfo => rfl
  | disconnected d => exact events_releases d.clients

theorem Orderly.events_eq_nil {job : MonitorJob} {rest : List MonitorJob}
    (ho : Orderly (job :: rest)) (h : job.isChore = false) :
    (job :: rest).filterMap (·.event?) = [] := by
  cases ho with
  | chore hjob => rw [h] at hjob; cases hjob
  | _ => rfl

/-- A monitor that waits has heeded all events. -/
theorem pending_of_resting (ho : Orderly s.agenda) (hrest : s.isResting = true) :
    s.pending = [] := by
  refine List.filterMap_eq_nil_iff.2 fun job hjob => ?_
  have := ho.isChore_eq_false hrest hjob
  cases job <;> first | rfl | cases this

/-! ## The invariant is kept -/

theorem Follows.start (m : MonitorSettings) : Follows (start m) := fun _ => rfl

/-- A monitor without events to heed has tasks for the devices online. -/
theorem Follows.isSome_kept (h : Follows s) (hnone : s.pending = []) :
    (s.kept.get? serial).isSome = s.shared.registry.isOnline serial := by
  have := h serial
  rwa [hnone] at this

/-- A monitor without events to heed that works on the registry has the new events to heed. -/
theorem Follows.publish {α : Type} {u : Update α} {rest : List MonitorJob} (h : Follows s)
    (hnone : s.pending = []) (hrest : rest.filterMap (·.event?) = [])
    (hu : s.shared.registry.replica.LeadsTo u.events u.registry.replica) :
    Follows { s.publish u with agenda := u.events.map .handle ++ rest } := by
  intro serial
  have hkeeps := hu.keeps serial
  rw [Registry.isOnline_replica, Registry.isOnline_replica, ← h.isSome_kept hnone] at hkeeps
  rw [pending, List.filterMap_append, events_map_handle, hrest, List.append_nil]
  exact hkeeps

theorem Follows.works (h : Follows s) (ho : Orderly s.agenda) (hw : Works s s') : Follows s' := by
  cases hw with
  | handle hagenda =>
    intro serial
    have hserial := h serial
    rw [pending, hagenda] at hserial
    rw [pending, List.filterMap_append, events_handle, List.nil_append, shared_handle]
    simp only [isSome_kept_handle]
    exact hserial
  | clearClients hagenda =>
    intro serial
    have hserial := h serial
    rw [pending, hagenda] at hserial
    rw [pending, List.filterMap_append, events_releases, List.nil_append]
    exact hserial.trans (Registry.isOnline_edit (Registry.state_clientsKept _)).symm
  | @applyList list rest hagenda =>
    rw [hagenda] at ho
    have hnone : s.pending = [] := by
      rw [pending, hagenda]
      exact ho.events_eq_nil rfl
    have hrest : rest.filterMap (·.event?) = [] := ho.events_eq_nil rfl
    exact h.publish hnone hrest (Registry.leadsTo_applyList s.shared.registry list)
  | @clear rest hagenda =>
    rw [hagenda] at ho
    have hnone : s.pending = [] := by
      rw [pending, hagenda]
      exact ho.events_eq_nil rfl
    have hrest : rest.filterMap (·.event?) = [] := ho.events_eq_nil rfl
    exact h.publish hnone hrest (Registry.leadsTo_clear s.shared.registry)
  | release hagenda | giveUp hagenda | retry hagenda | finish hagenda =>
    intro serial
    have hserial := h serial
    rw [pending, hagenda] at hserial
    exact hserial
  | @quit rest hagenda =>
    rw [hagenda] at ho
    have hrest : rest.filterMap (·.event?) = [] := ho.events_eq_nil rfl
    intro serial
    rw [pending, List.filterMap_append, List.filterMap_append, events_lastReleases, hrest]
    rfl

theorem Follows.hears (h : Follows s) (ho : Orderly s.agenda) {a : Signal} (hh : Hears s a s') :
    Follows s' := by
  intro serial
  have hserial := h serial
  unfold pending at hserial ⊢
  cases hh with
  | @shutdown job rest hagenda hwaits =>
    rw [hagenda] at ho hserial
    rwa [ho.events_eq_nil (MonitorJob.isChore_eq_false_of_waits hwaits)] at hserial
  | accepted hagenda | refused hagenda | list hagenda | lost hagenda | woke hagenda =>
    rw [hagenda] at hserial
    exact hserial

end System

end DebugBridge
