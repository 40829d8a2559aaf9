import DebugBridge.Proofs.Registry.Replay
import DebugBridge.Proofs.Text.ByteOrder

/-!
# What a device list brings about

A device list is taken in line by line, while the registry is being changed. What comes of it can be told
without the lines in between: the record of a device after some lines (`recordAfter?`) is told by the
last of them that names it and by what was known of it before the list. So a line tells of a new device
if nothing was known of its device and no earlier line names it (`arrival?`), and it tells of a change if
the record after the earlier lines has another state (`change?`).

Results:
* `get?_foldl_line`, the records after some lines;
* `events_foldl_line`, the events of some lines;
* `applyList_listed`, the registry and the events after a device list.
-/

namespace DebugBridge

namespace Registry

variable {reg : Registry} {p : Pass} {l : Listed} {before list : List Listed} {serial : String}

/-! ## What the lines tell of a device -/

/-- The state that the last line of a device gives it, if a line names it. -/
def lastState? (list : List Listed) (serial : String) : Option DeviceState :=
  (list.reverse.find? (·.serial == serial)).map (·.state)

/-- The record of a device after some lines of a list: what was known of it before, in the state that its
last line gives it. A device that was not known has a fresh record. -/
def recordAfter? (reg : Registry) (lines : List Listed) (serial : String) : Option Record :=
  match lastState? lines serial with
  | some state => some { (reg.records.get? serial).getD (Record.fresh state) with state }
  | none => reg.records.get? serial

/-- The lines of a list, each with those before it. -/
def withEarlier (before : List Listed) : List Listed → List (List Listed × Listed)
  | [] => []
  | l :: rest => (before, l) :: withEarlier (before ++ [l]) rest

/-- The event of a line that is the first to name a device, nothing having been known of the device. -/
def arrival? (reg : Registry) : List Listed × Listed → Option Event
  | (before, l) =>
    if (reg.records.get? l.serial).isNone ∧ ∀ earlier ∈ before, earlier.serial ≠ l.serial then
      some (.connected ((Record.fresh l.state).snapshot l.serial))
    else none

/-- The event of a line whose device has another state after the lines before it. -/
def change? (reg : Registry) : List Listed × Listed → Option Event
  | (before, l) => (recordAfter? reg before l.serial).bind fun r =>
    if r.state = l.state then none
    else some (.changed (({ r with state := l.state } : Record).snapshot l.serial) .state)

theorem lastState?_append_singleton : lastState? (before ++ [l]) serial =
    if serial = l.serial then some l.state else lastState? before serial := by
  unfold lastState?
  rw [List.reverse_append, List.reverse_singleton, List.singleton_append, List.find?_cons]
  by_cases h : serial = l.serial
  · rw [if_pos h, beq_iff_eq.2 h.symm]
    rfl
  · rw [if_neg h, beq_false_of_ne (Ne.symm h)]

theorem lastState?_eq_none_iff :
    lastState? list serial = none ↔ ∀ l ∈ list, l.serial ≠ serial := by
  simp [lastState?]

/-- One more line sets the state of its device. -/
theorem recordAfter?_append_singleton : recordAfter? reg (before ++ [l]) serial =
    if serial = l.serial then
      some { (recordAfter? reg before serial).getD (Record.fresh l.state) with state := l.state }
    else recordAfter? reg before serial := by
  unfold recordAfter?
  rw [lastState?_append_singleton]
  by_cases h : serial = l.serial
  · rw [if_pos h, if_pos h]
    cases lastState? before serial with
    | none => rfl
    | some state => cases reg.records.get? serial <;> rfl
  · rw [if_neg h, if_neg h]

/-- Nothing is known of a device after some lines just if nothing was known of it and no line names
it. -/
theorem recordAfter?_eq_none_iff : recordAfter? reg before serial = none ↔
    (reg.records.get? serial).isNone ∧ ∀ l ∈ before, l.serial ≠ serial := by
  rw [← lastState?_eq_none_iff, recordAfter?]
  cases lastState? before serial <;> simp

/-! ## Line by line -/

/-- A line does to the record of a device what one more line does to `recordAfter?`. -/
theorem get?_line_of_recordAfter? (h : p.records.get? serial = recordAfter? reg before serial)
    (l : Listed) :
    (p.line l).records.get? serial = recordAfter? reg (before ++ [l]) serial := by
  rw [get?_line, recordAfter?_append_singleton, h]

/-- The record of a device after some lines, by induction on the lines. -/
theorem get?_foldl_line (h : p.records.get? serial = recordAfter? reg before serial)
    (list : List Listed) :
    (list.foldl Pass.line p).records.get? serial = recordAfter? reg (before ++ list) serial := by
  induction list generalizing p before with
  | nil => rw [List.append_nil]; exact h
  | cons l list ih =>
    have := ih (get?_line_of_recordAfter? h l)
    rwa [List.append_assoc, List.singleton_append] at this

/-- The events of one line. -/
theorem events_line (h : p.records.get? l.serial = recordAfter? reg before l.serial) :
    (p.line l).arrivals = p.arrivals ++ (arrival? reg (before, l)).toList ∧
      (p.line l).changes = p.changes ++ (change? reg (before, l)).toList := by
  cases hr : recordAfter? reg before l.serial with
  | none =>
    have hnew := recordAfter?_eq_none_iff.1 hr
    rw [hr] at h
    unfold Pass.line arrival? change?
    simp only [h, hr, if_pos hnew, Option.toList_some, Option.bind_none, Option.toList_none,
      List.append_nil, and_self]
  | some r =>
    have hold : ¬ ((reg.records.get? l.serial).isNone ∧
        ∀ earlier ∈ before, earlier.serial ≠ l.serial) := by
      rw [← recordAfter?_eq_none_iff, hr]
      simp
    rw [hr] at h
    rw [line_of_known h, arrival?, change?, if_neg hold, hr, Option.bind_some]
    split_ifs <;> simp

/-- The events of some lines, by induction on the lines. The records need only be known as far as the
lines that are still to come name them. -/
theorem events_foldl_line
    (h : ∀ l ∈ list, p.records.get? l.serial = recordAfter? reg before l.serial) :
    (list.foldl Pass.line p).arrivals =
        p.arrivals ++ (withEarlier before list).filterMap (arrival? reg) ∧
      (list.foldl Pass.line p).changes =
        p.changes ++ (withEarlier before list).filterMap (change? reg) := by
  induction list generalizing p before with
  | nil => exact ⟨(List.append_nil _).symm, (List.append_nil _).symm⟩
  | cons l list ih =>
    obtain ⟨hl, hlist⟩ := List.forall_mem_cons.1 h
    obtain ⟨harrivals, hchanges⟩ := events_line hl
    obtain ⟨hmore, hmore'⟩ := ih fun k hk => get?_line_of_recordAfter? (hlist k hk) l
    rw [List.foldl_cons, hmore, hmore', harrivals, hchanges, withEarlier, List.filterMap_cons,
      List.filterMap_cons, List.append_assoc, List.append_assoc]
    constructor
    · cases arrival? reg (before, l) <;> rfl
    · cases change? reg (before, l) <;> rfl

/-! ## A device list -/

theorem get?_stay_of_listed (h : ∃ l ∈ list, l.serial = serial) :
    (reg.records.filterKeys fun serial => list.any (·.serial == serial)).get? serial =
      recordAfter? reg [] serial := by
  rw [Dict.get?_filterKeys, if_pos (by simpa using h)]
  rfl

/-- The records after a device list: a device is known just if a line names it, and its last line gives
it its state. -/
theorem get?_applyList : (reg.applyList list).registry.records.get? serial =
    (lastState? list serial).map fun state =>
      { (reg.records.get? serial).getD (Record.fresh state) with state } := by
  cases hlast : lastState? list serial with
  | none => exact get?_applyList_of_unlisted (lastState?_eq_none_iff.1 hlast)
  | some state =>
    have hlisted : ∃ l ∈ list, l.serial = serial := by
      refine Decidable.byContradiction fun hno => ?_
      rw [lastState?_eq_none_iff.2 fun l hl hserial => hno ⟨l, hl, hserial⟩] at hlast
      cases hlast
    have hrecord : (reg.applyList list).registry.records.get? serial =
        recordAfter? reg ([] ++ list) serial :=
      get?_foldl_line (get?_stay_of_listed hlisted) list
    rw [hrecord, List.nil_append, recordAfter?, hlast]
    rfl

/-- The events after a device list. -/
theorem events_applyList : (reg.applyList list).events =
    (reg.records.filterKeys fun serial => ! list.any (·.serial == serial)).entries.map
        (fun e => farewell e.1 e.2) ++
      (withEarlier [] list).filterMap (arrival? reg) ++
      (withEarlier [] list).filterMap (change? reg) := by
  have hpass := events_foldl_line (p := ⟨reg.records.filterKeys fun serial =>
    list.any (·.serial == serial), [], []⟩) fun l hl => get?_stay_of_listed ⟨l, hl, rfl⟩
  rw [applyList]
  dsimp only
  rw [hpass.1, hpass.2, List.nil_append, List.nil_append]

/-- **Main theorem.** A device list is taken in, whatever is known and whatever the list repeats. The
events that the caller gets are those that are published. Exactly the listed devices are known then, each
in the state that its last line gives it. A device that was known keeps all else that was known of it,
and of a new one nothing else is known.

First those devices are told of that are gone, in the order of the bytes of their serials. Then each new
device is told of where a line first names it, in the state that this line gives it. Then each line is
told of that finds its device in another state. -/
theorem applyList_listed (reg : Registry) (list : List Listed) :
    let u := reg.applyList list
    u.result = u.events ∧
      (∀ serial, u.registry.state? serial = lastState? list serial) ∧
      (∀ serial, (u.registry.records.get? serial).isSome ↔ ∃ l ∈ list, l.serial = serial) ∧
      (∀ serial r, u.registry.records.get? serial = some r →
        (∀ old, reg.records.get? serial = some old → r = { old with state := r.state }) ∧
        (reg.records.get? serial = none → r = Record.fresh r.state)) ∧
      ∃ gone : List (String × Record),
        (∀ serial r, (serial, r) ∈ gone ↔
          reg.records.get? serial = some r ∧ ∀ l ∈ list, l.serial ≠ serial) ∧
        gone.Pairwise (fun a b => Bytes.ofString a.1 < Bytes.ofString b.1) ∧
        u.events = gone.map (fun e => farewell e.1 e.2) ++
          (withEarlier [] list).filterMap (arrival? reg) ++
          (withEarlier [] list).filterMap (change? reg) := by
  refine ⟨rfl, fun serial => ?_, fun serial => ?_, fun serial r hr => ?_, _, fun serial r => ?_, ?_,
    events_applyList⟩
  · rw [state?, get?_applyList, Option.map_map]
    exact Option.map_id'
  · rw [get?_applyList, Option.isSome_map, Option.isSome_iff_ne_none, Ne, lastState?_eq_none_iff]
    simp
  · rw [get?_applyList] at hr
    obtain ⟨state, -, rfl⟩ := Option.map_eq_some_iff.1 hr
    refine ⟨fun old hold => ?_, fun hnew => ?_⟩
    · rw [hold, Option.getD_some]
    · rw [hnew, Option.getD_none]
      rfl
  · rw [Dict.mem_entries_iff, Dict.get?_filterKeys]
    split_ifs with hgone
    · exact (and_iff_left (by simpa using hgone)).symm
    · constructor
      · intro h
        cases h
      · rintro ⟨-, h⟩
        exact absurd h (by simpa using hgone)
  · exact (Dict.ascending _).imp Bytes.ofString_lt_ofString.2

/-- One device is gone, one is new and named twice, and one is named twice and ends as it was. -/
example :
    let before := (empty.applyList [⟨"a", .online⟩, ⟨"b", .online⟩]).registry
    let device (serial : String) (state : DeviceState) := (Record.fresh state).snapshot serial
    let list : List Listed := [⟨"b", .offline⟩, ⟨"c", .offline⟩, ⟨"b", .online⟩, ⟨"c", .online⟩]
    (before.applyList list).events =
      [.disconnected (device "a" .disconnected), .connected (device "c" .offline),
        .changed (device "b" .offline) .state, .changed (device "b" .online) .state,
        .changed (device "c" .online) .state] := by
  decide +kernel

end Registry

end DebugBridge
