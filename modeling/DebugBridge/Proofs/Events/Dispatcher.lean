import DebugBridge.Bridge.Listening
import Mathlib.Tactic.SplitIfs

/-!
# What a turn of the dispatcher can be

A turn delivers the first event that is queued, or ends the dispatcher, with nothing queued
(`Turns`). What it delivers it also broadcasts, so that the calls to a listener that is registered once
keep step with the events broadcast (`callsTo_deliver`).
-/

namespace DebugBridge

namespace Dispatcher

variable {l : Listeners} {d d' : Dispatcher} {id : Nat}

theorem drain_of_nil (h : d.queue = []) : drain l d = d := by
  obtain ⟨queue, hasSenders, signal, ended, deliveries, broadcast⟩ := d
  obtain rfl : queue = [] := h
  rfl

/-- A turn of the dispatcher. -/
inductive Turns (l : Listeners) (d : Dispatcher) : Dispatcher → Prop
  | deliver {e : Event} {rest : List Event} (h : d.queue = e :: rest) (hopen : d.ended = false) :
    Turns l d (deliver l { d with queue := rest } e)
  | close (h : d.queue = []) (hopen : d.ended = false)
    (hwhy : d.hasSenders = false ∨ d.signal ≠ .quiet) : Turns l d { d with ended := true }

theorem turns_of_turn (h : turn l d = some d') : Turns l d d' := by
  unfold turn at h
  by_cases hended : d.ended = true
  · rw [if_pos hended] at h
    cases h
  · rw [if_neg hended] at h
    have hopen : d.ended = false := by simpa using hended
    split at h
    · rename_i e rest hqueue
      cases h
      exact .deliver hqueue hopen
    · rename_i hqueue
      by_cases hsenders : d.hasSenders = true
      · rw [if_neg (by simp [hsenders])] at h
        split_ifs at h with hsignal
        cases h
        rw [drain_of_nil hqueue]
        exact .close hqueue hopen (.inr hsignal)
      · rw [if_pos (by simpa using hsenders)] at h
        cases h
        exact .close hqueue hopen (.inl (by simpa using hsenders))

theorem turn_of_queue {e : Event} {rest : List Event} (hopen : d.ended = false)
    (hqueue : d.queue = e :: rest) : ∃ d', turn l d = some d' ∧ d'.queue = rest :=
  ⟨deliver l { d with queue := rest } e, by simp [turn, hopen, hqueue], rfl⟩

theorem turn_of_signal (hopen : d.ended = false) (hqueue : d.queue = [])
    (hsenders : d.hasSenders = true) (hsignal : d.signal ≠ .quiet) :
    turn l d = some { d with ended := true } := by
  simp [turn, hopen, hqueue, hsenders, hsignal, drain_of_nil hqueue]

/-! ## The calls to a listener -/

/-- Among the calls for an event there is one to a listener that is registered once. -/
theorem callsTo_notify (h : l.registered.filter (· == id) = [id]) (e : Event) :
    ((l.notify e).filter (·.listener == id)).map (·.callback) = [e.callback] := by
  rw [Listeners.notify, List.filter_map]
  show ((l.registered.filter (· == id)).map _).map _ = _
  rw [h]
  rfl

/-- A listener that is registered once is called once for each event. -/
theorem callsTo_deliver (h : l.registered.filter (· == id) = [id]) (e : Event) :
    (deliver l d e).callsTo id = d.callsTo id ++ [e.callback] := by
  rw [callsTo, deliver, List.filter_append, List.map_append, callsTo_notify h, callsTo]

end Dispatcher

/-! ## Registering -/

namespace Listeners

variable {l : Listeners} {id : Nat}

/-- Nobody is registered under a number that is still to be given. -/
def Fresh (l : Listeners) : Prop := ∀ id ∈ l.registered, id < l.next

theorem Fresh.add (h : l.Fresh) : l.add.2.Fresh := by
  intro id hid
  rcases List.mem_append.1 hid with hid | hid
  · exact Nat.lt_succ_of_lt (h id hid)
  · obtain rfl := List.mem_singleton.1 hid
    exact Nat.lt_succ_self _

theorem Fresh.remove (h : l.Fresh) (id : Nat) : (l.remove id).2.Fresh :=
  fun id hid => h id (List.mem_filter.1 hid).1

/-- A new listener is registered once. -/
theorem Fresh.filter_add (h : l.Fresh) : l.add.2.registered.filter (· == l.next) = [l.next] := by
  have hnot : l.registered.filter (· == l.next) = [] := by
    refine List.filter_eq_nil_iff.2 fun id hid heq => ?_
    have hlt := h id hid
    rw [beq_iff_eq.1 heq] at hlt
    exact Nat.lt_irrefl _ hlt
  rw [Listeners.add, List.filter_append, hnot, List.nil_append,
    List.filter_cons_of_pos (by simp), List.filter_nil]

theorem filter_add_of_lt (hid : id < l.next) (h : l.registered.filter (· == id) = [id]) :
    l.add.2.registered.filter (· == id) = [id] := by
  have hne : l.next ≠ id := by omega
  rw [add, List.filter_append, h, List.filter_cons_of_neg (by simpa using hne), List.filter_nil,
    List.append_nil]

theorem filter_remove_of_ne {other : Nat} (hne : other ≠ id)
    (h : l.registered.filter (· == id) = [id]) :
    (l.remove other).2.registered.filter (· == id) = [id] := by
  rw [remove, List.filter_filter, ← h]
  refine List.filter_congr fun k _ => ?_
  by_cases hk : k = id
  · simp [hk, Ne.symm hne]
  · simp [hk]

end Listeners

end DebugBridge
