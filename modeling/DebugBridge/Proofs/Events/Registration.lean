import DebugBridge.Events.Registration
import Mathlib.Data.List.Nodup
import Mathlib.Data.List.Range

/-!
# Who is told of an event

The numbers given are 0, 1, 2 and so on. The listeners are kept in the order of their numbers, those that
are registered at the end of the log and no others (`Follows`).

Results:
* `length_filter_ne`, what a removal takes from the number of listeners;
* `Follows.perform`, what each call preserves;
* `run_listeners`, what is so after any calls.
-/

namespace DebugBridge.Listeners

variable {l : Listeners} {log : List Entry} {id : Nat}

/-- The registered listeners, as the log of the calls tells them. -/
structure Follows (log : List Entry) (l : Listeners) : Prop where
  numbers : addedIds log = List.range l.next
  ordered : l.registered.Sublist (List.range l.next)
  mem_iff : ∀ id, id ∈ l.registered ↔ IsRegistered log id
  balance : l.registered.length + (removedIds log).length = l.next

theorem Follows.empty : Follows [] empty where
  numbers := rfl
  ordered := List.nil_sublist _
  mem_iff id := by simp [Listeners.empty, IsRegistered, Logged.not_lasts_nil]
  balance := rfl

theorem Follows.nodup (h : Follows log l) : l.registered.Nodup := List.nodup_range.sublist h.ordered

/-! ## One more entry -/

theorem filterMap_concat {α β : Type} (f : α → Option β) (xs : List α) (x : α) :
    (xs ++ [x]).filterMap f = xs.filterMap f ++ (f x).toList := by
  rw [List.filterMap_append]
  cases hx : f x <;> simp [hx]

theorem addedIds_concat (log : List Entry) (x : Entry) :
    addedIds (log ++ [x]) = addedIds log ++ x.added?.toList :=
  filterMap_concat _ _ _

theorem removedIds_concat (log : List Entry) (x : Entry) :
    removedIds (log ++ [x]) = removedIds log ++ x.removed?.toList :=
  filterMap_concat _ _ _

theorem isRegistered_concat {x : Entry} :
    IsRegistered (log ++ [x]) id ↔ x = .added id ∨ IsRegistered log id ∧ x.call ≠ .remove id :=
  Logged.lasts_concat

/-! ## Calls -/

theorem Follows.add (h : Follows log l) : Follows (log ++ [.added l.next]) l.add.2 where
  numbers := by
    rw [addedIds_concat, h.numbers]
    exact List.range_succ.symm
  ordered := by
    rw [Listeners.add, List.range_succ]
    exact h.ordered.append (List.Sublist.refl _)
  mem_iff id := by
    rw [isRegistered_concat, ← h.mem_iff, Listeners.add, List.mem_append, List.mem_singleton]
    simp [Entry.call, or_comm, @eq_comm _ id]
  balance := by
    have hbalance := h.balance
    simp only [removedIds_concat, Entry.removed?, Listeners.add, Option.toList_none, List.append_nil,
      List.length_append, List.length_singleton]
    omega

/-- A list of different numbers gets shorter by the number that is taken from it, if it is there. -/
theorem length_filter_ne {ids : List Nat} (h : ids.Nodup) (id : Nat) :
    (ids.filter (· != id)).length + (if id ∈ ids then 1 else 0) = ids.length := by
  rw [← h.erase_eq_filter]
  split_ifs with hmem
  · exact List.length_erase_add_one hmem
  · rw [List.erase_of_not_mem hmem, Nat.add_zero]

theorem Follows.remove (h : Follows log l) (id : Nat) :
    Follows (log ++ [.removed id (l.remove id).1]) (l.remove id).2 where
  numbers := by
    rw [addedIds_concat, h.numbers]
    exact List.append_nil _
  ordered := List.filter_sublist.trans h.ordered
  mem_iff other := by
    rw [isRegistered_concat, ← h.mem_iff, Listeners.remove]
    simp [Entry.call, @eq_comm _ id]
  balance := by
    have hlength := length_filter_ne h.nodup id
    have hremoved : (Entry.removed id (l.remove id).1).removed?.toList.length =
        if id ∈ l.registered then 1 else 0 := by
      by_cases hmem : id ∈ l.registered <;> simp [Listeners.remove, Entry.removed?, hmem]
    rw [removedIds_concat, List.length_append, hremoved]
    show (l.registered.filter (· != id)).length + _ = l.next
    have hbalance := h.balance
    omega

theorem Follows.notify (h : Follows log l) (e : Event) :
    Follows (log ++ [.notified e (l.notify e)]) l where
  numbers := by
    rw [addedIds_concat, h.numbers]
    exact List.append_nil _
  ordered := h.ordered
  mem_iff id := by
    rw [isRegistered_concat, ← h.mem_iff]
    simp [Entry.call]
  balance := by
    rw [removedIds_concat, ← h.balance]
    exact congrArg (_ + ·) (congrArg _ (List.append_nil _))

theorem Follows.perform (h : Follows log l) (call : Call) :
    Follows (log ++ [(l.perform call).1]) (l.perform call).2 := by
  cases call with
  | add => exact h.add
  | remove id => exact h.remove id
  | notify e => exact h.notify e

/-- As numbers of 64 bits the first 2^64 numbers are different, too. -/
theorem nodup_map_ofNat_range {n : Nat} (h : n ≤ UInt64.size) :
    ((List.range n).map UInt64.ofNat).Nodup := by
  have htoNat : ∀ k ∈ List.range n, (UInt64.ofNat k).toNat = k := fun k hk =>
    UInt64.toNat_ofNat_of_lt' (Nat.lt_of_lt_of_le (List.mem_range.1 hk) h)
  refine List.nodup_range.map_on fun a ha b hb hab => ?_
  rw [← htoNat a ha, ← htoNat b hb, hab]

/-- **Main theorem.** Listeners come and go and are told of events, by any calls.
* No number is given twice; nor is one as a number of 64 bits, as long as there are not more of them.
* The next event is told, by the callback for it, to the listeners that have come and not gone since, to
  each of them once, in the order in which they came.
* The next removal succeeds exactly if somebody is registered under the number. It takes this listener
  from those that are told, and leaves the others in their order.
* The number of listeners is that of those who came less that of the removals that succeeded. -/
theorem run_listeners (calls : List Call) :
    let log := (Logged.run perform empty calls).1
    let l := (Logged.run perform empty calls).2
    log.map Entry.call = calls ∧
    (addedIds log).Nodup ∧
    ((addedIds log).length ≤ UInt64.size → ((addedIds log).map UInt64.ofNat).Nodup) ∧
    (∀ e, ∃ ids : List Nat, l.notify e = ids.map (fun id => ⟨id, e.callback⟩) ∧ ids.Sublist (addedIds log) ∧
      ∀ id, id ∈ ids ↔ IsRegistered log id) ∧
    (∀ id, ((l.remove id).1 = true ↔ IsRegistered log id) ∧
      ∀ e, (l.remove id).2.notify e = (l.notify e).filter (·.listener != id)) ∧
    l.size + (removedIds log).length = (addedIds log).length := by
  intro log l
  have hstep : ∀ log l call, Follows log l →
      Follows (log ++ [(perform l call).1]) (perform l call).2 := fun _ _ call h => h.perform call
  have hfollows : Follows log l := Logged.run_induction hstep .empty calls
  have hlength : (addedIds log).length = l.next := by rw [hfollows.numbers, List.length_range]
  refine ⟨Logged.map_run (fun _ call => ?_) _ calls, ?_, fun hfew => ?_, fun e => ?_,
    fun id => ⟨?_, fun e => ?_⟩, ?_⟩
  · cases call <;> rfl
  · exact hfollows.numbers ▸ List.nodup_range
  · rw [hfollows.numbers]
    exact nodup_map_ofNat_range (hlength ▸ hfew)
  · exact ⟨l.registered, rfl, hfollows.numbers ▸ hfollows.ordered, hfollows.mem_iff⟩
  · rw [← hfollows.mem_iff]
    exact List.contains_iff_mem
  · rw [notify, notify, List.filter_map]
    rfl
  · rw [hlength]
    exact hfollows.balance

/-- A listener that came late is told last, and one that is gone is not told. -/
example (e : Event) :
    (Logged.run perform empty [.add, .add, .remove 0, .add, .remove 0, .notify e]).1.getLast? =
      some (.notified e [⟨1, e.callback⟩, ⟨2, e.callback⟩]) :=
  rfl

end DebugBridge.Listeners
