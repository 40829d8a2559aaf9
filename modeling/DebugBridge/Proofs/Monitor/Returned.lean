import DebugBridge.Proofs.Monitor.Errands
import DebugBridge.Proofs.Monitor.Ports
import DebugBridge.Proofs.Monitor.Reconnecting

/-!
# Which ports come back

A port that nobody has in hand is held by the pool exactly if it is with a registered client, or
lost. It is lost when a client takes the place of another with its process number: nobody gives back
the port of the other. This happens if a list of processes names one twice. If none does, and
whoever has begun to work goes on until it waits, then no port is lost, and all ports are free once
the monitor has stopped.

Results:
* `ports_returned`: which ports are held, in all runs and in those that lose none.
* `ports_of_repeatedPid`: a process that is named twice makes a port stay held for ever.
-/

namespace DebugBridge

namespace System

variable {s s' : System}

theorem steps_map_move (s : System) (moves : List Move) :
    s.steps (moves.map .move) = s.run moves := by
  induction moves generalizing s with
  | nil => rfl
  | cons m moves ih =>
    rw [List.map_cons, steps_cons, run_cons]
    exact congrArg _ (funext ih)

/-! ## Runs that lose no port -/

/-- If nobody is interrupted and no list of processes names one twice, no port is lost. -/
theorem Exact.run (h : Exact s) {moves : List Move} (halone : s.uninterrupted moves = true)
    (hlist : ∀ number list, .taskHear number (.pids list) ∈ moves → list.Nodup)
    (hrun : s.run moves = some s') : Exact s' ∧ s.lost (moves.map .move) = [] := by
  induction moves generalizing s with
  | nil =>
    cases hrun
    exact ⟨h, rfl⟩
  | cons m moves ih =>
    obtain ⟨s₁, hm, hrun⟩ := Option.bind_eq_some_iff.1 hrun
    obtain ⟨halone, hothers⟩ := Bool.and_eq_true _ _ ▸ halone
    rw [hm] at hothers
    have h₁ := h.move halone (fun number list he => hlist number list (he ▸ List.mem_cons_self)) hm
    obtain ⟨h', hlost⟩ := ih h₁ hothers
      (fun number list he => hlist number list (List.mem_cons_of_mem _ he)) hrun
    refine ⟨h', ?_⟩
    rw [List.map_cons, lost, lostBy, h.displaced_eq_nil hm, show s.step (.move m) = some s₁ from hm]
    exact hlost

/-- Once the monitor has stopped, nobody has a port in hand. -/
theorem Exact.inHand_eq_nil (h : Exact s) (hagenda : s.agenda = []) (hkept : s.kept = .empty) :
    s.inHand = [] := by
  rw [inHand, hagenda]
  refine List.flatMap_eq_nil_iff.2 fun t ht => ?_
  have haborted : t.aborted = true := by
    cases haborted : t.aborted with
    | true => rfl
    | false =>
      obtain ⟨number, hnumber⟩ := List.mem_iff_getElem?.1 ht
      obtain ⟨numbers, hnumbers, -⟩ := h.assigned.kept_of_live hnumber haborted
      rw [hkept, Dict.get?_empty] at hnumbers
      cases hnumbers
  have hidle := h.idle t ht haborted
  cases hjobs : t.agenda with
  | nil => rw [Task.ports, hjobs]; rfl
  | cons job rest =>
    refine Task.ports_of_waits (h.planned t ht).ordered ?_
    simpa [Task.isBusy, Task.waits, hjobs] using hidle

/-! ## The ports that are held -/

theorem Accounted.mem_held_iff {lost : List UInt16} (h : Accounted s lost) (hnone : s.inHand = [])
    (port : UInt16) :
    port ∈ s.shared.ports.held ↔ port ∈ s.shared.registry.debuggerPorts ∨ port ∈ lost := by
  have hbalance := h.balance port
  rw [hnone, List.count_nil] at hbalance
  rw [PortPool.mem_held h.sound, ← List.count_pos_iff, ← List.count_pos_iff]
  cases hheld : s.shared.ports.isHeld port with
  | true =>
    rw [hheld, Bool.toNat_true] at hbalance
    simp only [true_iff]
    omega
  | false =>
    rw [hheld, Bool.toNat_false] at hbalance
    simp only [Bool.false_eq_true, false_iff]
    omega

/-- **Main theorem.** However the steps of a monitor and of any number of trackers follow upon one
another: while nobody has a port in hand, the ports held are those of registered clients and those
lost. If nobody is interrupted and no list of processes names one twice, none is lost: the ports
held are those of registered clients, and there are none once the monitor has stopped. -/
theorem ports_returned (m : MonitorSettings) :
    (∀ l s, (start m).steps l = some s → s.inHand = [] → ∀ port,
      (port ∈ s.shared.ports.held ↔
        port ∈ s.shared.registry.debuggerPorts ∨ port ∈ (start m).lost l)) ∧
    ∀ moves s, (start m).run moves = some s → (start m).uninterrupted moves = true →
      (∀ number list, .taskHear number (.pids list) ∈ moves → list.Nodup) →
        (s.inHand = [] → ∀ port,
          (port ∈ s.shared.ports.held ↔ port ∈ s.shared.registry.debuggerPorts)) ∧
        (s.status = .stopped → s.shared.ports.held = []) := by
  refine ⟨fun l s hs hnone => ((Accounted.start m).steps hs).mem_held_iff hnone,
    fun moves s hrun halone hlist => ?_⟩
  obtain ⟨hexact, hlost⟩ := (Exact.start m).run halone hlist hrun
  have haccounted := (Accounted.start m).steps ((steps_map_move _ moves).trans hrun)
  rw [hlost] at haccounted
  have hheld : s.inHand = [] → ∀ port,
      (port ∈ s.shared.ports.held ↔ port ∈ s.shared.registry.debuggerPorts) := fun hnone port => by
    simpa using haccounted.mem_held_iff hnone port
  refine ⟨hheld, fun hstopped => ?_⟩
  have hcourse : Course s _ s.agenda := (Course.start m).run hrun
  have hnot : s.status ≠ .connected := by simp [hstopped]
  have hkept := hcourse.kept_eq_empty hexact.follows hnot
  have hnone := hexact.inHand_eq_nil (hcourse.agenda_eq_nil hstopped) hkept
  refine List.eq_nil_iff_forall_not_mem.2 fun port hport => ?_
  rw [hheld hnone port, hcourse.registry_eq_empty hnot] at hport
  cases hport

/-- A device comes online, and its tracker registers clients for two processes of a list. -/
def twoProcesses (pids : List UInt32) : List Move :=
  [.hear .accepted, .hear (.list [⟨"a", .online⟩]), .work, .work, .taskHear 0 .accepted,
    .taskHear 0 (.pids pids), .taskWork 0, .taskWork 0, .taskHear 0 (.described none), .taskWork 0,
    .taskWork 0, .taskHear 0 (.described none), .taskWork 0, .taskWork 0, .taskWork 0]

/-- The monitor is told to stop, and does so in some steps. -/
def stopping (steps : Nat) : List Move := .hear .shutdown :: List.replicate steps .work

theorem ports_returned_twoProcesses :
    ∃ s s', (start clientsOnly).run (twoProcesses [7, 8]) = some s ∧
      s.shared.registry.debuggerPorts = [8600, 8601] ∧
      (∀ port, port ∈ s.shared.ports.held ↔ port ∈ s.shared.registry.debuggerPorts) ∧
      (start clientsOnly).run (twoProcesses [7, 8] ++ stopping 4) = some s' ∧
      s'.status = .stopped ∧ s'.shared.ports.held = [] := by
  have hrun : ((start clientsOnly).run (twoProcesses [7, 8])).map
      (fun s => (s.shared.registry.debuggerPorts, s.inHand)) = some ([8600, 8601], []) := by
    decide +kernel
  have hstop : ((start clientsOnly).run (twoProcesses [7, 8] ++ stopping 4)).map (·.status) =
      some .stopped := by decide +kernel
  have halone : (start clientsOnly).uninterrupted (twoProcesses [7, 8] ++ stopping 4) = true ∧
      (start clientsOnly).uninterrupted (twoProcesses [7, 8]) = true := by decide +kernel
  have hlist : ∀ number list,
      .taskHear number (.pids list) ∈ twoProcesses [7, 8] ++ stopping 4 → list.Nodup := by
    intro number list h
    obtain ⟨-, rfl⟩ : number = 0 ∧ list = [7, 8] := by simpa [twoProcesses, stopping] using h
    decide
  obtain ⟨s, hs, hpair⟩ := Option.map_eq_some_iff.1 hrun
  obtain ⟨hports, hnone⟩ := Prod.mk.inj hpair
  obtain ⟨s', hs', hstopped⟩ := Option.map_eq_some_iff.1 hstop
  have hreturned := (ports_returned clientsOnly).2
  refine ⟨s, s', hs, hports, ?_, hs', hstopped, ?_⟩
  · exact (hreturned _ s hs halone.2 fun number list h =>
      hlist number list (List.mem_append_left _ h)).1 hnone
  · exact (hreturned _ s' hs' halone.1 hlist).2 hstopped

/-- Of a process that is named twice the first port is lost. It is still held when the monitor has
stopped. -/
theorem ports_of_repeatedPid :
    ∃ s s', (start clientsOnly).run (twoProcesses [7, 7]) = some s ∧
      (start clientsOnly).uninterrupted (twoProcesses [7, 7]) = true ∧ s.inHand = [] ∧
      s.shared.registry.debuggerPorts = [8601] ∧ s.shared.ports.held = [8600, 8601] ∧
      (start clientsOnly).run (twoProcesses [7, 7] ++ stopping 3) = some s' ∧
      s'.status = .stopped ∧ s'.shared.registry.debuggerPorts = [] ∧
      s'.shared.ports.held = [8600] := by
  have hrun : ((start clientsOnly).run (twoProcesses [7, 7])).map (fun s =>
      (s.inHand, s.shared.registry.debuggerPorts, s.shared.ports.held)) =
        some ([], [8601], [8600, 8601]) := by decide +kernel
  have hstop : ((start clientsOnly).run (twoProcesses [7, 7] ++ stopping 3)).map (fun s =>
      (s.status, s.shared.registry.debuggerPorts, s.shared.ports.held)) =
        some (.stopped, [], [8600]) := by decide +kernel
  have halone : (start clientsOnly).uninterrupted (twoProcesses [7, 7]) = true := by decide +kernel
  obtain ⟨s, hs, heq⟩ := Option.map_eq_some_iff.1 hrun
  obtain ⟨s', hs', heq'⟩ := Option.map_eq_some_iff.1 hstop
  simp only [Prod.mk.injEq] at heq heq'
  exact ⟨s, s', hs, halone, heq.1, heq.2.1, heq.2.2, hs', heq'.1, heq'.2.1, heq'.2.2⟩

end System

end DebugBridge
