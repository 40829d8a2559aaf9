import DebugBridge.Proofs.Registry.Sweeps
import DebugBridge.Wire.Listing

/-!
# A device list that comes again

A device list is taken in line by line, and the last line of a device decides on its state. So a list
that comes a second time leaves the registry as the first time has left it. Whether anything is told
then is another matter: if two lines give a device different states, the device is taken through
both of them again, and each time a change is told of.

Results:
* `exists_last_line`: each listed device ends in the state that one of its lines gives it;
* `Pass.Settled.foldl`, what a pass over a list tells that has been taken in before;
* `applyList_replay`: a list that comes again changes nothing, and it is silent exactly if it gives no
  device two states.
-/

namespace DebugBridge

namespace Registry

/-- Do two lines of a device list give a device different states? -/
def HasTwoStates (list : List Listed) (serial : String) : Prop :=
  ∃ a ∈ list, ∃ b ∈ list, a.serial = serial ∧ b.serial = serial ∧ a.state ≠ b.state

variable {reg : Registry} {p : Pass} {l : Listed} {list more : List Listed} {serial : String}

/-! ## One line -/

/-- A line of a known device either finds its state or changes it. -/
theorem line_of_known {r : Record} (h : p.records.get? l.serial = some r) :
    p.line l =
      if r.state = l.state then p
      else
        { p with
          records := p.records.insert l.serial { r with state := l.state }
          changes := p.changes ++
            [.changed (({ r with state := l.state } : Record).snapshot l.serial) .state] } := by
  unfold Pass.line
  rw [h]

theorem changes_prefix_line (p : Pass) (l : Listed) : p.changes <+: (p.line l).changes := by
  unfold Pass.line
  split
  · exact List.prefix_refl _
  · split_ifs
    · exact List.prefix_refl _
    · exact List.prefix_append _ _

theorem changes_prefix_foldl (list : List Listed) (p : Pass) :
    p.changes <+: (list.foldl Pass.line p).changes := by
  induction list generalizing p with
  | nil => exact List.prefix_refl _
  | cons l list ih => exact (changes_prefix_line p l).trans (ih (p.line l))

/-! ## The records after a list -/

/-- A list leaves devices alone that it does not name. -/
theorem get?_foldl_of_unlisted (h : ∀ l ∈ list, l.serial ≠ serial) (p : Pass) :
    (list.foldl Pass.line p).records.get? serial = p.records.get? serial := by
  induction list generalizing p with
  | nil => rfl
  | cons l list ih =>
    obtain ⟨hl, hlist⟩ := List.forall_mem_cons.1 h
    rw [List.foldl_cons, ih hlist, get?_line, if_neg hl.symm]

/-- A list sets the state of a known device, and no other part of its record. -/
theorem get?_foldl_of_known {r : Record} (h : p.records.get? serial = some r)
    (list : List Listed) :
    ∃ state, (list.foldl Pass.line p).records.get? serial = some { r with state } := by
  induction list generalizing p r with
  | nil => exact ⟨r.state, h⟩
  | cons l list ih =>
    have hline : ∃ state, (p.line l).records.get? serial = some { r with state } := by
      rw [get?_line, h]
      split_ifs
      · exact ⟨l.state, rfl⟩
      · exact ⟨r.state, rfl⟩
    obtain ⟨state, hstate⟩ := hline
    obtain ⟨last, hlast⟩ := ih hstate
    exact ⟨last, hlast⟩

/-- Whatever was known of a listed device, it ends in the state that one of its lines gives it. -/
theorem exists_last_line (h : ∃ l ∈ list, l.serial = serial) :
    ∃ last ∈ list, last.serial = serial ∧
      ∀ p : Pass, state? ⟨(list.foldl Pass.line p).records⟩ serial = some last.state := by
  induction list with
  | nil => simp at h
  | cons first list ih =>
    by_cases hlater : ∃ l ∈ list, l.serial = serial
    · obtain ⟨last, hlast, hserial, hstate⟩ := ih hlater
      exact ⟨last, List.mem_cons_of_mem _ hlast, hserial, fun p => hstate (p.line first)⟩
    · have hfirst : first.serial = serial := by
        obtain ⟨l, hl, hserial⟩ := h
        rcases List.mem_cons.1 hl with rfl | hl
        · exact hserial
        · exact absurd ⟨l, hl, hserial⟩ hlater
      refine ⟨first, List.mem_cons_self, hfirst, fun p => ?_⟩
      have hrest : ∀ l ∈ list, l.serial ≠ serial := fun l hl hserial => hlater ⟨l, hl, hserial⟩
      have hline := state?_line p first serial
      rw [if_pos hfirst.symm] at hline
      rw [List.foldl_cons, state?, get?_foldl_of_unlisted hrest]
      exact hline

/-! ## What a list tells that has been taken in -/

/-- A pass over a list that has been taken in before: its devices are known in states that it gives
them, no device is new, and only devices to which it gives two states are told of. -/
structure Pass.Settled (list : List Listed) (p : Pass) : Prop where
  known : ∀ l ∈ list, ∃ l' ∈ list,
    l'.serial = l.serial ∧ state? ⟨p.records⟩ l.serial = some l'.state
  arrivals : p.arrivals = []
  changes : ∀ e ∈ p.changes, ∃ d, e = .changed d .state ∧ HasTwoStates list d.serial

theorem Pass.Settled.line (h : p.Settled list) (hl : l ∈ list) : (p.line l).Settled list := by
  obtain ⟨l', hl', hserial, hstate⟩ := h.known l hl
  obtain ⟨r, hr, hrstate⟩ := Option.map_eq_some_iff.1 hstate
  have hknown : ∀ k ∈ list, ∃ k' ∈ list,
      k'.serial = k.serial ∧ state? ⟨(p.line l).records⟩ k.serial = some k'.state := by
    intro k hk
    rw [state?_line]
    split_ifs with hsame
    · exact ⟨l, hl, hsame.symm, rfl⟩
    · exact h.known k hk
  rw [line_of_known hr] at hknown ⊢
  split_ifs at hknown ⊢ with hsame
  · exact h
  · refine ⟨hknown, h.arrivals, fun e he => ?_⟩
    rcases List.mem_append.1 he with he | he
    · exact h.changes e he
    · exact ⟨_, List.mem_singleton.1 he, l', hl', l, hl, hserial, rfl, by rwa [← hrstate]⟩

theorem Pass.Settled.foldl (h : p.Settled list) (hmore : ∀ l ∈ more, l ∈ list) :
    (more.foldl Pass.line p).Settled list := by
  induction more generalizing p with
  | nil => exact h
  | cons l more ih =>
    obtain ⟨hl, hmore⟩ := List.forall_mem_cons.1 hmore
    exact ih (h.line hl) hmore

/-- If nothing is told, each line has found its state. -/
theorem Pass.Settled.state_of_silent (h : p.Settled list) (hmore : ∀ l ∈ more, l ∈ list)
    (hsilent : (more.foldl Pass.line p).changes = []) :
    ∀ l ∈ more, state? ⟨p.records⟩ l.serial = some l.state := by
  induction more with
  | nil => simp
  | cons l more ih =>
    obtain ⟨hl, hmore⟩ := List.forall_mem_cons.1 hmore
    obtain ⟨l', -, -, hstate⟩ := h.known l hl
    obtain ⟨r, hr, -⟩ := Option.map_eq_some_iff.1 hstate
    have hfirst : (p.line l).changes = [] :=
      List.prefix_nil.1 (hsilent ▸ changes_prefix_foldl more (p.line l))
    have hsame : r.state = l.state := Decidable.byContradiction fun hne => by
      rw [line_of_known hr, if_neg hne] at hfirst
      simp at hfirst
    have hline : p.line l = p := by rw [line_of_known hr, if_pos hsame]
    rw [List.foldl_cons, hline] at hsilent
    refine List.forall_mem_cons.2 ⟨?_, ih hmore hsilent⟩
    rw [state?, hr, Option.map_some, hsame]

/-! ## A list that comes again -/

/-- A list that names all known devices drops none of them. -/
theorem applyList_of_listed
    (h : ∀ serial, (∀ l ∈ list, l.serial ≠ serial) → reg.records.get? serial = none) :
    let pass := list.foldl Pass.line ⟨reg.records, [], []⟩
    reg.applyList list =
      ⟨⟨pass.records⟩, pass.arrivals ++ pass.changes, pass.arrivals ++ pass.changes⟩ := by
  have hstay : reg.records.filterKeys (fun serial => list.any (·.serial == serial)) =
      reg.records := by
    apply Dict.ext_get?
    intro serial
    rw [Dict.get?_filterKeys]
    split_ifs with hlisted
    · rfl
    · exact (h serial (by simpa using hlisted)).symm
  have hgone : reg.records.filterKeys (fun serial => ! list.any (·.serial == serial)) =
      .empty := by
    apply Dict.ext_get?
    intro serial
    rw [Dict.get?_filterKeys]
    split_ifs with hlisted
    · exact h serial (by simpa using hlisted)
    · rfl
  rw [applyList, hstay, hgone]
  rfl

theorem get?_applyList_of_unlisted (h : ∀ l ∈ list, l.serial ≠ serial) :
    (reg.applyList list).registry.records.get? serial = none := by
  rw [applyList]
  dsimp only
  rw [get?_foldl_of_unlisted h, Dict.get?_filterKeys, if_neg]
  simpa using h

theorem settled_applyList (reg : Registry) (list : List Listed) :
    Pass.Settled list ⟨(reg.applyList list).registry.records, [], []⟩ where
  known := fun l hl =>
    let ⟨last, hlast, hserial, hstate⟩ := exists_last_line ⟨l, hl, rfl⟩
    ⟨last, hlast, hserial, hstate _⟩
  arrivals := rfl
  changes := by simp

/-- Taking in a list again leads to the records to which it has led. -/
theorem records_replay (reg : Registry) (list : List Listed) :
    let records := (reg.applyList list).registry.records
    (list.foldl Pass.line ⟨records, [], []⟩).records = records := by
  intro records
  apply Dict.ext_get?
  intro serial
  by_cases hlisted : ∃ l ∈ list, l.serial = serial
  · obtain ⟨last, -, -, hlast⟩ := exists_last_line hlisted
    have hfirst : state? ⟨records⟩ serial = some last.state := hlast _
    obtain ⟨r, hr, hrstate⟩ := Option.map_eq_some_iff.1 hfirst
    have hknown : (Pass.mk records [] []).records.get? serial = some r := hr
    obtain ⟨state, hstate⟩ := get?_foldl_of_known hknown list
    have hsecond := hlast ⟨records, [], []⟩
    rw [state?, hstate, Option.map_some, ← hrstate, Option.some.injEq] at hsecond
    have hsame : state = r.state := hsecond
    rw [hstate, hsame]
    exact hr.symm
  · exact get?_foldl_of_unlisted (fun l hl hserial => hlisted ⟨l, hl, hserial⟩) _

/-- **Main theorem.** The payload of a device list that was the last to be taken in comes again. Nothing
changes in the registry. What is told are changes of state of devices that the list gives two
different states; so nothing is told exactly if it gives no device two states. -/
theorem applyList_replay (reg : Registry) (payload : String) :
    let list := Listing.devices payload
    let next := (reg.applyList list).registry
    let again := next.applyList list
    again.registry = next ∧
      (again.events = [] ↔ ∀ serial, ¬ HasTwoStates list serial) ∧
      ∀ e ∈ again.events, ∃ d, e = .changed d .state ∧ HasTwoStates list d.serial := by
  intro list next again
  have hbegin : Pass.Settled list ⟨next.records, [], []⟩ := settled_applyList reg list
  have hend := hbegin.foldl fun l hl => hl
  have hagain : again = _ := applyList_of_listed fun serial => get?_applyList_of_unlisted
  have hevents : again.events = (list.foldl Pass.line ⟨next.records, [], []⟩).changes := by
    rw [hagain]
    dsimp only
    rw [hend.arrivals, List.nil_append]
  refine ⟨?_, ⟨fun hsilent => ?_, fun hone => ?_⟩, fun e he => hend.changes e (hevents ▸ he)⟩
  · rw [hagain]
    exact congrArg Registry.mk (records_replay reg list)
  · -- in silence all lines of a device have found the one state that it has
    have hstate := hbegin.state_of_silent (fun l hl => hl) (hevents ▸ hsilent)
    rintro serial ⟨a, ha, b, hb, rfl, hserial, hne⟩
    have hb := hstate b hb
    rw [hserial, hstate a ha, Option.some.injEq] at hb
    exact hne hb
  · rw [hevents]
    refine List.eq_nil_iff_forall_not_mem.2 fun e he => ?_
    obtain ⟨d, -, htwo⟩ := hend.changes e he
    exact hone d.serial htwo

/-- A list that gives a device two states takes it through both each time. -/
theorem replay_of_twoStates :
    let list := Listing.devices "s\tdevice\ns\toffline\n"
    let next := (empty.applyList list).registry
    let device : DeviceState → Snapshot := fun state => (Record.fresh state).snapshot "s"
    next.device? "s" = some (device .offline) ∧
      (next.applyList list).events =
        [.changed (device .online) .state, .changed (device .offline) .state] := by
  decide +kernel

end Registry

end DebugBridge
