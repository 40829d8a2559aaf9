import DebugBridge.Bridge.Listening
import DebugBridge.Registry.Replica
import Mathlib.Tactic.SplitIfs

/-!
# Events tell of visits

Events that fit a replica one after the other tell of each device in turn that it comes, changes and
goes. Whether the device is known is all that has to be followed: it comes only while it is not, and
changes or goes only while it is (`visits_of_fits`).
-/

namespace DebugBridge

/-- The calls for the events of a device. -/
def Event.callsAbout (serial : String) (events : List Event) : List Callback :=
  (events.filter (·.serial == serial)).map (·.callback)

theorem Event.serial_callback (e : Event) : e.callback.serial = e.serial := by
  cases e <;> rfl

theorem Event.filter_callbacks (serial : String) (events : List Event) :
    (events.map (·.callback)).filter (·.serial == serial) = callsAbout serial events := by
  rw [List.filter_map, callsAbout]
  congr 2
  funext e
  simp [serial_callback]

theorem Event.callsAbout_cons_of_ne {serial : String} {e : Event} {events : List Event}
    (h : e.serial ≠ serial) : callsAbout serial (e :: events) = callsAbout serial events := by
  rw [callsAbout, List.filter_cons_of_neg (by simpa using h), callsAbout]

theorem Event.callsAbout_cons_self {e : Event} {events : List Event} :
    callsAbout e.serial (e :: events) = e.callback :: callsAbout e.serial events := by
  rw [callsAbout, List.filter_cons_of_pos (by simp), List.map_cons, callsAbout]

namespace Replica

variable {m : Replica} {e : Event} {serial : String} {events : List Event}

/-- An event changes nothing of other devices than its own. -/
theorem get?_apply_of_ne (h : e.serial ≠ serial) : (m.apply e).get? serial = m.get? serial := by
  cases e with
  | connected d | changed d =>
    rw [apply, Dict.get?_insert]
    exact if_neg (Ne.symm h)
  | disconnected d =>
    rw [apply, Dict.get?_erase]
    exact if_neg (Ne.symm h)

/-- What is still told of a device that is there: some changes, its going, and its next visits. -/
def Leaves (calls : List Callback) : Prop :=
  ∃ changes gone rest, calls = changes ++ .deviceDisconnected gone :: rest ∧
    (∀ c ∈ changes, c.isChange = true) ∧ Callback.Visits rest

theorem Leaves.cons {calls : List Callback} (h : Leaves calls) {c : Callback}
    (hc : c.isChange = true) : Leaves (c :: calls) := by
  obtain ⟨changes, gone, rest, rfl, hchanges, hrest⟩ := h
  exact ⟨c :: changes, gone, rest, rfl, List.forall_mem_cons.2 ⟨hc, hchanges⟩, hrest⟩

/-- Events that fit and leave a device unknown in the end tell of its visits, the first of which may
have begun before. -/
theorem visits_of_fits (hfits : m.FitsAll events) (hend : (m.applyAll events).get? serial = none) :
    (m.get? serial = none → Callback.Visits (Event.callsAbout serial events)) ∧
      (m.get? serial ≠ none → Leaves (Event.callsAbout serial events)) := by
  induction events generalizing m with
  | nil => exact ⟨fun _ => .nil, fun hknown => absurd hend hknown⟩
  | cons e events ih =>
    obtain ⟨he, hfits⟩ := hfits
    obtain ⟨hunknown, hknown⟩ := ih hfits hend
    by_cases hserial : e.serial = serial
    · subst hserial
      rw [Event.callsAbout_cons_self]
      cases e with
      | connected d =>
        refine ⟨fun _ => ?_, fun hold => absurd he hold⟩
        have hnew : (m.apply (.connected d)).get? d.serial ≠ none := by
          rw [apply, Dict.get?_insert, if_pos rfl]
          nofun
        obtain ⟨changes, gone, rest, hcalls, hchanges, hrest⟩ := hknown hnew
        rw [hcalls]
        exact .cons hchanges hrest
      | changed d what =>
        have hnew : (m.apply (.changed d what)).get? d.serial ≠ none := by
          rw [apply, Dict.get?_insert, if_pos rfl]
          nofun
        obtain ⟨old, hold, -⟩ := he
        refine ⟨fun hnone => ?_, fun _ => (hknown hnew).cons rfl⟩
        exact absurd (hold.symm.trans hnone) nofun
      | disconnected d =>
        have hgone : (m.apply (.disconnected d)).get? d.serial = none := by
          rw [apply, Dict.get?_erase, if_pos rfl]
        obtain ⟨old, hold, -⟩ := he
        refine ⟨fun hnone => absurd (hold.symm.trans hnone) nofun, fun _ => ?_⟩
        exact ⟨[], d, _, rfl, nofun, hunknown hgone⟩
    · rw [Event.callsAbout_cons_of_ne hserial]
      rw [get?_apply_of_ne hserial] at hunknown hknown
      exact ⟨hunknown, hknown⟩

end Replica

end DebugBridge
