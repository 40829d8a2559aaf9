import DebugBridge.Bridge.Live
import DebugBridge.Proofs.Monitor.History
import DebugBridge.Proofs.Monitor.Reconnecting
import DebugBridge.Proofs.Wire.Framing

/-!
# From the bytes of a stream to the registry

On an accepted stream the monitor hears the device lists in the frames at the front of its bytes, and
then that the stream is lost (`Tracking.signals_of_framed`). The sweeps in its history are these lists,
in order, and the dropping of all devices (`run_deviceLists`). What stands behind the last frame is
in neither.
-/

namespace DebugBridge

/-- The device list in a payload. -/
def Listing.ofPayload (payload : Bytes) : List Listed := Listing.devices (Utf8.lossy payload)

/-! ## What is heard on a stream -/

theorem Framed.split {b rest : Bytes} {first last : List Bytes}
    (h : Framed b (first ++ last) rest) : ∃ mid, Framed b first mid ∧ Framed mid last rest := by
  induction first generalizing b with
  | nil => exact ⟨b, .nil b, h⟩
  | cons payload first ih =>
    cases h with
    | cons hframe hb =>
      obtain ⟨mid, hfirst, hlast⟩ := ih hb
      exact ⟨mid, .cons hframe hfirst, hlast⟩

namespace Read

theorem gives_deviceList {s : Stream} {payload rest : Bytes} (h : Gives frame s payload rest) :
    Gives deviceList s (Listing.ofPayload payload) rest := by
  refine h.bind fun s' hs' => ?_
  rw [← hs']
  exact gives_pure _ s'

theorem stops_deviceList {s : Stream} (h : NoFrame s.bytes) : Stops deviceList s :=
  (stops_frame h).bind _

end Read

namespace Tracking

variable {s : Stream} {payloads : List Bytes} {rest : Bytes} {n : Nat}

theorem filterMap_ofListing?_ok (lists : List (List Listed)) :
    (lists.map Except.ok).filterMap Signal.ofListing? = lists.map .list := by
  rw [List.filterMap_map]
  show lists.filterMap (fun entries => some (Signal.list entries)) = _
  rw [List.filterMap_eq_map']

theorem signals_of_le (hframed : Framed s.bytes payloads rest) (hn : n ≤ payloads.length) :
    signals n s = ((payloads.map Listing.ofPayload).take n).map .list := by
  rw [← List.take_append_drop n payloads] at hframed
  obtain ⟨mid, hfirst, -⟩ := hframed.split
  obtain ⟨s', -, -, hlist⟩ :=
    Read.listings_of_framed (fun _ _ _ => Read.gives_deviceList) hfirst rfl 0
  rw [List.length_take, Nat.min_eq_left hn, Nat.add_zero, listings, List.append_nil] at hlist
  rw [signals, hlist, ← List.map_take, ← filterMap_ofListing?_ok, List.map_map]
  rfl

theorem signals_of_lt (hclosed : s.ending = .closed) (hframed : Framed s.bytes payloads rest)
    (hrest : NoFrame rest) (hn : payloads.length < n) :
    signals n s = (payloads.map Listing.ofPayload).map .list ++ [.lost] := by
  obtain ⟨k, rfl⟩ := Nat.exists_eq_add_of_lt hn
  obtain ⟨s', hbytes, hending, hlist⟩ :=
    Read.listings_of_framed (fun _ _ _ => Read.gives_deviceList) hframed rfl (k + 1)
  -- behind the last frame the next read fails, and it is the last one
  obtain ⟨e, he, hdetail⟩ := Read.stops_deviceList (hbytes.symm ▸ hrest)
  obtain ⟨detail, rfl⟩ := hdetail (hending.trans hclosed)
  have hlast : (listings Read.deviceList (k + 1) s').1 = [.error (.failed (.protocol detail))] := by
    rcases hrun : Read.deviceList.run s' with ⟨x, s''⟩
    rw [hrun] at he
    cases he
    rw [listings, hrun]
  rw [signals, Nat.add_assoc, hlist, hlast, List.filterMap_append, ← filterMap_ofListing?_ok,
    List.map_map]
  rfl

end Tracking

/-- What the monitor of a live bridge is told next is what the next read of its stream gives. The stream
is then where the read has left it. -/
theorem Live.signal_nextList {D S : Type} [Daemon D S] {l : Live D S} {found : OpenStream S}
    (h : l.streams.find? (·.owner == .monitor) = some found) :
    (l.signal .nextList).map (·.1) = (Tracking.signals 1 found.stream).head? ∧
      ∀ entries l', l.signal .nextList = some (.list entries, l') →
        l'.streams.head?.map (·.stream) = some (Read.deviceList.run found.stream).2 := by
  rcases hrun : Read.deviceList.run found.stream with ⟨(_ | e) | entries, s'⟩ <;>
    simp [signal, nextListing, h, hrun, Tracking.signals, Tracking.listings, Signal.ofListing?]

namespace System

variable {m : MonitorSettings} {s s' : System} {moves : List Move}

/-! ## An accepted stream -/

/-- Before a stream is accepted there are no devices. -/
theorem of_accepted {before : List Move}
    (h : (start m).run (before ++ [.hear .accepted]) = some s) :
    s.agenda = [.nextList] ∧ s.shared.registry = .empty ∧
      Course s (signals before ++ [.accepted]) s.agenda := by
  rw [run_append] at h
  obtain ⟨s₀, hbefore, hlast⟩ := Option.bind_eq_some_iff.1 h
  rw [run_singleton] at hlast
  have hcourse : Course s₀ (signals before) s₀.agenda := (Course.start m).run hbefore
  have hcourse' := hcourse.hears (hears_of_hear hlast)
  cases hears_of_hear hlast with
  | accepted hagenda =>
    rw [hagenda] at hcourse
    cases hcourse with
    | opening _ hempty => exact ⟨rfl, hempty, hcourse'⟩
    | chore hjob => cases hjob

theorem failuresIn_append_lists (heard : List Signal) (lists : List (List Listed)) :
    failuresIn (heard ++ lists.map .list) = failuresIn heard := by
  induction lists generalizing heard with
  | nil => rw [List.map_nil, List.append_nil]
  | cons entries lists ih =>
    rw [List.map_cons, List.append_cons, ih, failuresIn_append]
    rfl

/-- While the monitor hears but lists, it does not come to an end. -/
theorem agenda_ne_nil_of_lists {heard : List Signal} {lists : List (List Listed)}
    (h : Course s heard [.nextList])
    (h' : Course s' (heard ++ lists.map .list) s'.agenda) : s'.agenda ≠ [] := by
  intro hnil
  rw [hnil] at h'
  cases h with
  | following _ _ hnone htold =>
    cases h' with
    | ended _ _ hover =>
      rcases hover with hover | ⟨most, -, hfailures⟩
      · simp [htold] at hover
      · rw [failuresIn_append_lists, hnone] at hfailures
        omega
  | chore hjob => cases hjob

/-! ## The monitor can go on -/

/-- The first attempt to open a stream is never made again. -/
theorem status_ne_connecting_move (h : s.status ≠ .connecting) {move : Move}
    (hm : s.move move = some s') : s'.status ≠ .connecting := by
  cases move with
  | work =>
    cases works_of_work hm with
    | @handle e =>
      obtain ⟨kept, tasks, heq⟩ := s.handle_eq e
      rw [heq]
      exact h
    | retry | finish => nofun
    | clearClients | release | applyList | clear | giveUp | quit => exact h
  | hear a =>
    cases hears_of_hear hm with
    | accepted => nofun
    | shutdown | refused | list | lost | woke => exact h
  | taskWork number =>
    obtain ⟨t, job, rest, w, -, -, -, rfl⟩ := taskWork_cases hm
    exact h
  | taskHear number a =>
    obtain ⟨t, t', -, -, -, rfl⟩ := taskHear_cases hm
    exact h
  | taskEnd number =>
    obtain ⟨t, -, -, rfl⟩ := taskEnd_cases hm
    exact h

/-- Between two lists the monitor waits for the next one. -/
theorem Course.agenda_of_following {heard : List Signal} (h : Course s heard s.agenda)
    (hrest : s.isResting = true) (hnone : failuresIn heard = 0) (htold : .shutdown ∉ heard)
    (hstatus : s.status ≠ .connecting) : s.agenda = [.nextList] := by
  unfold isResting at hrest
  generalize s.agenda = agenda at h hrest
  cases h with
  | following => rfl
  | opening hopen =>
    rcases hopen with ⟨hopen, -⟩ | ⟨-, hpos⟩
    · exact absurd hopen hstatus
    · omega
  | sleeping _ hpos => omega
  | ended _ _ hover =>
    rcases hover with hover | ⟨most, -, hfailures⟩
    · exact absurd hover htold
    · omega
  | listed | parting | failing | quitting | finishing => cases hrest
  | @chore job rest hjob => cases job <;> simp [MonitorJob.isChore, MonitorJob.waits] at hjob hrest

/-- The monitor can take in whatever lists come, and then waits for the next one. -/
theorem exists_run_lists {heard : List Signal} (h : Course s heard s.agenda)
    (hagenda : s.agenda = [.nextList]) (lists : List (List Listed)) :
    ∃ moves s', s.run moves = some s' ∧ signals moves = lists.map .list ∧
      s'.agenda = [.nextList] := by
  induction lists generalizing s heard with
  | nil => exact ⟨[], s, rfl, rfl, hagenda⟩
  | cons entries lists ih =>
    obtain ⟨s₁, hhear, hagenda₁⟩ : ∃ s₁, s.hear (.list entries) = some s₁ ∧
        s₁.agenda = [.applyList entries, .nextList] := by
      rw [hear, hagenda]
      exact ⟨_, rfl, rfl⟩
    have hcourse₁ := h.hears (hears_of_hear hhear)
    obtain ⟨k, s₂, hrun, hrest⟩ := Orderly.settles (s := s₁) (hagenda₁ ▸ .listed entries)
    have hcourse₂ := hcourse₁.run hrun
    rw [signals_replicate_work, List.append_nil] at hcourse₂
    obtain ⟨hconnected, hnone, htold⟩ : s₁.status = .connected ∧
        failuresIn (heard ++ [.list entries]) = 0 ∧ .shutdown ∉ heard ++ [.list entries] := by
      rw [hagenda₁] at hcourse₁
      cases hcourse₁ with
      | listed hstatus _ hnone htold => exact ⟨hstatus, hnone, htold⟩
      | chore hjob => cases hjob
    have hstatus : s₂.status ≠ .connecting :=
      run_induction (P := fun s => s.status ≠ .connecting)
        (fun h hm => status_ne_connecting_move h hm) (by simp [hconnected]) hrun
    obtain ⟨moves, s', hmoves, hsignals, hagenda'⟩ :=
      ih hcourse₂ (hcourse₂.agenda_of_following hrest hnone htold hstatus)
    refine ⟨.hear (.list entries) :: (List.replicate k .work ++ moves), s', ?_, ?_, hagenda'⟩
    · rw [run_cons, show s.move (.hear (.list entries)) = some s₁ from hhear, Option.bind_some,
        run_append, hrun]
      exact hmoves
    · rw [signals_cons, signals_append, signals_replicate_work, hsignals]
      rfl

/-- The monitor can take in whatever lists come and the loss of the stream, and then rests. -/
theorem exists_run_lost {heard : List Signal} (h : Course s heard s.agenda)
    (hagenda : s.agenda = [.nextList]) (lists : List (List Listed)) :
    ∃ moves s', s.run moves = some s' ∧ signals moves = lists.map .list ++ [.lost] ∧
      s'.isResting = true := by
  obtain ⟨moves, s₁, hmoves, hsignals, hagenda₁⟩ := exists_run_lists h hagenda lists
  obtain ⟨s₂, hhear, hagenda₂⟩ : ∃ s₂, s₁.move (.hear .lost) = some s₂ ∧
      s₂.agenda = [.clear, .retry] := by
    rw [System.move, hear, hagenda₁]
    exact ⟨_, rfl, rfl⟩
  obtain ⟨k, s', hrun, hrest⟩ := Orderly.settles (s := s₂) (hagenda₂ ▸ .parting)
  refine ⟨moves ++ .hear .lost :: List.replicate k .work, s', ?_, ?_, hrest⟩
  · rw [run_append, hmoves, Option.bind_some, run_cons, hhear]
    exact hrun
  · rw [signals_append, signals_cons, signals_replicate_work, hsignals]
    rfl

/-! ## Systems without tasks -/

theorem tasks_eq_nil_move (hnone : ∀ serial, tasksFor s.settings serial = []) (h : s.tasks = [])
    {move : Move} (hm : s.move move = some s') : s'.tasks = [] := by
  refine List.eq_nil_iff_forall_not_mem.2 ?_
  refine forall_tasks_of_move (Q := fun _ => False) (fun serial t ht => ?_) (fun _ => id)
    (fun _ _ _ _ _ _ => id) (fun _ _ _ _ _ _ _ _ _ _ => id) (fun _ => id) ?_ hm
  · rw [hnone] at ht
    cases ht
  · rw [h]
    nofun

theorem tasks_eq_nil_run (hnone : ∀ serial, tasksFor m serial = [])
    (h : (start m).run moves = some s) : s.tasks = [] := by
  have : s.tasks = [] ∧ s.settings = m := by
    refine run_induction (P := fun s => s.tasks = [] ∧ s.settings = m) ?_ ⟨rfl, rfl⟩ h
    rintro s move s' ⟨htasks, rfl⟩ hm
    exact ⟨tasks_eq_nil_move hnone htasks hm, settings_move hm⟩
  exact this.1

/-- Without tasks the monitor alone works on the registry. -/
theorem operation?_of_no_tasks (h : s.tasks = []) {move : Move} {op : Operation}
    (hop : s.operation? move = some op) :
    op.isSweep = true ∨ ∃ serial, op = .clearClients serial := by
  cases move with
  | work =>
    obtain ⟨job, -, hjob⟩ := Option.bind_eq_some_iff.1 hop
    cases job with
    | applyList | clear | quit =>
      cases hjob
      exact .inl rfl
    | clearClients serial =>
      cases hjob
      exact .inr ⟨serial, rfl⟩
    | _ => cases hjob
  | taskWork number => simp [operation?, h] at hop
  | hear | taskHear | taskEnd => cases hop

/-- Without tasks nobody adds a client. -/
theorem history_of_no_tasks (hnone : ∀ serial, tasksFor s.settings serial = [])
    (h : s.tasks = []) (hrun : s.run moves = some s') :
    ∀ op ∈ s.history moves, op.isSweep = true ∨ ∃ serial, op = .clearClients serial := by
  induction moves generalizing s with
  | nil => nofun
  | cons move moves ih =>
    obtain ⟨s₁, hm, hrun⟩ := Option.bind_eq_some_iff.1 hrun
    have hrest := ih (fun serial => settings_move hm ▸ hnone serial) (tasks_eq_nil_move hnone h hm)
      hrun
    rw [history_cons hm]
    intro op hop
    rcases List.mem_append.1 hop with hop | hop
    · exact operation?_of_no_tasks h (Option.mem_toList.1 hop)
    · exact hrest op hop

/-! ## The registry follows the stream -/

section Accepted

variable {before after : List Move} {lists : List (List Listed)}
  (haccepted : (start m).run (before ++ [.hear .accepted]) = some s)
  (hrun : s.run after = some s') (hrest : s'.isResting = true)

include haccepted hrun hrest

/-- The sweeps in the history of a run after which the monitor rests. -/
theorem sweeps_of_accepted :
    (s.history after).filter (·.isSweep) = (signals after).filterMap (·.sweep?) ∨
      (s.history after).filter (·.isSweep) = (signals after).filterMap (·.sweep?) ++ [.clear] ∧
        s'.agenda = [] := by
  obtain ⟨hagenda, -, -⟩ := of_accepted haccepted
  have ho : Orderly s.agenda := hagenda ▸ .following
  have ho' : Orderly s'.agenda := run_induction (fun ho hm => orderly_move ho hm) ho hrun
  have hsweeps := run_sweeps ho hrun
  have hnone : dueSweeps s.agenda = [] := by
    rw [hagenda]
    rfl
  simp only [dueSweeps_of_resting ho' hrest, hnone, List.append_nil, List.nil_append] at hsweeps
  exact hsweeps.imp id fun ⟨hsweeps, hend⟩ => ⟨hsweeps, hend.agenda_eq_nil hrest⟩

omit haccepted hrun hrest in
theorem filterMap_sweep?_lists (lists : List (List Listed)) :
    (lists.map Signal.list).filterMap (·.sweep?) = lists.map .applyList := by
  rw [List.filterMap_map]
  show lists.filterMap (fun entries => some (Operation.applyList entries)) = _
  rw [List.filterMap_eq_map']

/-- The monitor that hears but lists does no other sweeps than these. -/
theorem sweeps_of_lists (hsignals : signals after = lists.map .list) :
    (s.history after).filter (·.isSweep) = lists.map .applyList := by
  rcases sweeps_of_accepted haccepted hrun hrest with hsweeps | ⟨-, hnil⟩
  · rw [hsweeps, hsignals, filterMap_sweep?_lists]
  · obtain ⟨hagenda, -, hcourse⟩ := of_accepted haccepted
    have hcourse' := hcourse.run hrun
    rw [hsignals] at hcourse'
    rw [hagenda] at hcourse
    exact absurd hnil (agenda_ne_nil_of_lists hcourse hcourse')

/-- The monitor that hears lists and then loses the stream does these sweeps and drops all devices.
After that it does not hear of any more. -/
theorem history_of_lost (hsignals : signals after = lists.map .list ++ [.lost]) :
    ∃ earlier later, s.history after = earlier ++ .clear :: later ∧
      earlier.filter (·.isSweep) = lists.map .applyList ∧
      ∀ op ∈ later, ∀ list, op ≠ .applyList list := by
  have hcalled : (signals after).filterMap (·.sweep?) = lists.map .applyList ++ [.clear] := by
    rw [hsignals, List.filterMap_append, filterMap_sweep?_lists]
    rfl
  -- one that gives up drops all devices once more
  obtain ⟨extra, hextra, hsweeps⟩ : ∃ extra : List Operation, (∀ op ∈ extra, op = .clear) ∧
      (s.history after).filter (·.isSweep) = lists.map .applyList ++ .clear :: extra := by
    rcases sweeps_of_accepted haccepted hrun hrest with hsweeps | ⟨hsweeps, -⟩
    · exact ⟨[], nofun, hsweeps.trans hcalled⟩
    · refine ⟨[.clear], fun op => List.mem_singleton.1, ?_⟩
      rw [hsweeps, hcalled, List.append_assoc]
      rfl
  obtain ⟨earlier, more, hhistory, hearlier, hmore⟩ := List.filter_eq_append_iff.1 hsweeps
  obtain ⟨edits, later, rfl, hedits, -, hlater⟩ := List.filter_eq_cons_iff.1 hmore
  refine ⟨earlier ++ edits, later, by rw [hhistory, List.append_assoc], ?_, ?_⟩
  · rw [List.filter_append, hearlier, List.filter_eq_nil_iff.2 hedits, List.append_nil]
  · rintro op hop list rfl
    cases hextra (.applyList list) (hlater ▸ List.mem_filter.2 ⟨hop, rfl⟩)

end Accepted

/-- **Main theorem.** The bytes of a stream that is closed in the end consist of frames, as many as
possible, and a rest. Let `lists` be the device lists in the frames. Whatever the monitor and its tasks
did before it was accepted, there are no devices then. For every `n`, the monitor can go on until it
has heard what there is to be heard in `n` reads of the stream, and rests. However it and its tasks take
turns until then,
* all that has happened to the registry and all that was published is what the history of the run
  does;
* at each moment of it the states of the devices are those after the sweeps so far, and if the monitor
  starts no tasks, so is all there is in the registry and all that was published;
* up to the last frame, the sweeps are the first `n` of the lists, in order;
* past the last frame, they are all lists, and then all devices are dropped. Each device that was left
  is told of as disconnected, nothing is told after that, and there are no devices.

The rest is nowhere in this. -/
theorem run_deviceLists (stream : Stream) (hclosed : stream.ending = .closed) :
    (∃ payloads rest, Framed stream.bytes payloads rest ∧ NoFrame rest) ∧
    ∀ payloads rest, Framed stream.bytes payloads rest → NoFrame rest →
    let lists := payloads.map Listing.ofPayload
    ∀ (m : MonitorSettings) (before : List Move) (s : System),
      (start m).run (before ++ [.hear .accepted]) = some s →
      s.shared.registry = .empty ∧
      ∀ n,
        (∃ after s', s.run after = some s' ∧ signals after = Tracking.signals n stream ∧
          s'.isResting = true) ∧
        ∀ after s', s.run after = some s' → signals after = Tracking.signals n stream →
          s'.isResting = true →
          s'.shared.registry = (Registry.empty.performAll (s.history after)).1 ∧
          s'.events = s.events ++ (Registry.empty.performAll (s.history after)).2 ∧
          (∀ ops, ops <+: s.history after →
            (∀ serial, (Registry.empty.performAll ops).1.state? serial =
              (Registry.empty.performAll (ops.filter (·.isSweep))).1.state? serial) ∧
            ((∀ serial, tasksFor m serial = []) →
              Registry.empty.performAll ops =
                Registry.empty.performAll (ops.filter (·.isSweep)))) ∧
          (n ≤ lists.length →
            (s.history after).filter (·.isSweep) = (lists.take n).map .applyList) ∧
          (lists.length < n →
            ∃ earlier later, s.history after = earlier ++ .clear :: later ∧
              earlier.filter (·.isSweep) = lists.map .applyList ∧
              s'.shared.registry = .empty ∧
              s'.events = s.events ++ (Registry.empty.performAll earlier).2 ++
                (Registry.empty.performAll earlier).1.devices.map
                  fun d => .disconnected { d with state := .disconnected }) := by
  refine ⟨exists_framed stream.bytes, ?_⟩
  intro payloads rest hframed hnone lists m before s haccepted
  have hlength : lists.length = payloads.length := List.length_map _
  obtain ⟨hagenda, hempty, hcourse⟩ := of_accepted haccepted
  refine ⟨hempty, fun n => ⟨?_, fun after s' hrun hsignals hrest => ?_⟩⟩
  · rcases Nat.lt_or_ge payloads.length n with hn | hn
    · rw [Tracking.signals_of_lt hclosed hframed hnone hn]
      exact exists_run_lost hcourse hagenda lists
    · rw [Tracking.signals_of_le hframed hn]
      obtain ⟨after, s', hrun, hsignals, hagenda'⟩ :=
        exists_run_lists hcourse hagenda (lists.take n)
      exact ⟨after, s', hrun, hsignals, by rw [isResting, hagenda']; rfl⟩
  · obtain ⟨hregistry, hevents⟩ := run_history hrun
    rw [hempty] at hregistry hevents
    refine ⟨hregistry, hevents, fun ops hops => ⟨?_, fun hnotasks => ?_⟩, fun hn => ?_,
      fun hn => ?_⟩
    · exact Registry.state?_performAll_filter ops fun _ => rfl
    · have hsettings : s.settings = m := settings_run haccepted
      have htasks : s.tasks = [] := tasks_eq_nil_run hnotasks haccepted
      refine Registry.performAll_of_no_clients (fun _ => rfl) fun op hop => ?_
      exact history_of_no_tasks (fun serial => hsettings ▸ hnotasks serial) htasks hrun op
        (hops.subset hop)
    · rw [hlength] at hn
      rw [Tracking.signals_of_le hframed hn] at hsignals
      exact sweeps_of_lists haccepted hrun hrest hsignals
    · rw [hlength] at hn
      rw [Tracking.signals_of_lt hclosed hframed hnone hn] at hsignals
      obtain ⟨earlier, later, hhistory, hearlier, hlater⟩ :=
        history_of_lost haccepted hrun hrest hsignals
      rw [hhistory, Registry.performAll_clear hlater] at hregistry hevents
      exact ⟨earlier, later, hhistory, hearlier, hregistry, by rw [hevents, List.append_assoc]⟩

/-- A monitor that starts no tasks. -/
def listsOnly : MonitorSettings := { clientsOnly with trackClients := false }

/-- A device list with a small letter in its length, and one whose length cannot be read. The two come
in chunks that do not end where they end. -/
def malformedSecond : Stream :=
  ⟨Bytes.ofString "000aab\tde", [Bytes.ofString "vice\n00g", Bytes.ofString "0ab\tdevice\n"], .closed⟩

theorem deviceLists_malformedSecond :
    ∃ s after s', (start listsOnly).run [.hear .accepted] = some s ∧ s.run after = some s' ∧
      signals after = Tracking.signals 5 malformedSecond ∧ s'.shared.registry = .empty ∧
      s'.events =
        [.connected ((Record.fresh .online).snapshot "ab"),
          .disconnected ((Record.fresh .disconnected).snapshot "ab")] := by
  have hbytes : malformedSecond.bytes = (Bytes.ofString "000a" ++ Bytes.ofString "ab\tdevice\n") ++
      Bytes.ofString "00g0ab\tdevice\n" := by decide
  have hframed : Framed malformedSecond.bytes [Bytes.ofString "ab\tdevice\n"]
      (Bytes.ofString "00g0ab\tdevice\n") := by
    rw [hbytes]
    exact .cons ⟨by decide, _, rfl, by decide⟩ (.nil _)
  have hnone : NoFrame (Bytes.ofString "00g0ab\tdevice\n") := noFrame_of_error rfl
  obtain ⟨s, hs⟩ := Option.isSome_iff_exists.1
    (show ((start listsOnly).run [.hear .accepted]).isSome = true by decide)
  obtain ⟨-, h⟩ := run_deviceLists malformedSecond rfl
  obtain ⟨-, hrun⟩ := h _ _ hframed hnone listsOnly [] s hs
  obtain ⟨⟨after, s', hafter, hsignals, hrest⟩, hall⟩ := hrun 5
  obtain ⟨-, -, hstates, -, hlost⟩ := hall after s' hafter hsignals hrest
  obtain ⟨earlier, later, hhistory, hearlier, hempty, hevents⟩ := hlost (by decide)
  refine ⟨s, after, s', hs, hafter, hsignals, hempty, ?_⟩
  have hearly := (hstates earlier (hhistory ▸ List.prefix_append _ _)).2 fun _ => rfl
  have hstart : s.events = [] := by
    cases hs
    rfl
  rw [hevents, hearly, hearlier, hstart]
  rfl

end System

end DebugBridge
