import DebugBridge.Proofs.Events.Dispatcher
import DebugBridge.Proofs.Events.Visits
import DebugBridge.Proofs.Monitor.History
import DebugBridge.Proofs.Monitor.Reconnecting

/-!
# What a listener has heard when the bridge is down

An event that is published is queued, and one that is taken off the queue is broadcast; nothing is
between the two (`Sound.told`). The bridge tells its dispatcher to stop only when the monitor has
ended. From then on nothing is published any more, so that the dispatcher ends with nothing queued and
nothing is told too late.
-/

namespace DebugBridge

/-- Has the dispatcher been told to stop? -/
def Stage.isLate : Stage → Bool
  | .draining | .down => true
  | .running | .stopping => false

namespace Bridge

variable {b b' : Bridge} {moves more : List Move} {id : Nat}

/-! ## Steps -/

/-- A step of a bridge. -/
inductive Goes (b : Bridge) : Move → Bridge → Prop
  | system {m : System.Move} {s : System} (hm : b.system.move m = some s) :
    Goes b (.system m) (b.withSystem s)
  | dispatch {d : Dispatcher} (hd : Dispatcher.Turns b.listeners b.dispatcher d) :
    Goes b .dispatch { b with dispatcher := d }
  /-- The monitor is told to stop. -/
  | tell (hstage : b.stage = .running) : Goes b .shutdown { b with stage := .stopping }
  /-- The monitor has ended, and the dispatcher is told to stop. -/
  | drain (hstage : b.stage = .stopping) (hagenda : b.system.agenda = []) :
    Goes b .shutdown
      { b with stage := .draining, dispatcher := { b.dispatcher with signal := .raised } }
  | finish (hstage : b.stage = .draining) (hended : b.dispatcher.ended = true) :
    Goes b .shutdown { b with stage := .down }
  | stay (hstage : b.stage = .down) : Goes b .shutdown b
  | listen : Goes b .listen b.listen.2
  | unlisten (id : Nat) : Goes b (.unlisten id) (b.unlisten id).2

theorem goes_of_move {m : Move} (hm : b.move m = some b') : Goes b m b' := by
  cases m with
  | system m =>
    rw [move] at hm
    split_ifs at hm
    obtain ⟨s, hs, rfl⟩ := Option.map_eq_some_iff.1 hm
    exact .system hs
  | dispatch =>
    obtain ⟨d, hd, rfl⟩ := Option.map_eq_some_iff.1 hm
    exact .dispatch (Dispatcher.turns_of_turn hd)
  | shutdown =>
    cases hstage : b.stage with
    | running =>
      simp only [move, hstage] at hm
      cases hm
      exact .tell hstage
    | stopping =>
      simp only [move, hstage] at hm
      split_ifs at hm with hagenda
      cases hm
      exact .drain hstage (List.isEmpty_iff.1 hagenda)
    | draining =>
      simp only [move, hstage] at hm
      split_ifs at hm with hended
      cases hm
      exact .finish hstage hended
    | down =>
      simp only [move, hstage] at hm
      cases hm
      exact .stay hstage
  | listen =>
    cases hm
    exact .listen
  | unlisten id =>
    cases hm
    exact .unlisten id

/-! ## The queue -/

theorem sendAll_of_open {d : Dispatcher} (h : d.ended = false) (events : List Event) :
    sendAll d events = { d with queue := d.queue ++ events } := by
  induction events generalizing d with
  | nil => rw [List.append_nil]; rfl
  | cons e events ih =>
    have hsend : (d.send e).2 = { d with queue := d.queue ++ [e] } := by
      rw [Dispatcher.send, if_neg (by simp [h])]
    rw [sendAll, List.foldl_cons, hsend]
    refine (ih (d := { d with queue := d.queue ++ [e] }) h).trans ?_
    rw [List.append_assoc]
    rfl

/-- What holds of a bridge at any time. -/
structure Sound (b : Bridge) : Prop where
  /-- The monitor and its tasks have done what they can do. -/
  reached : ∃ m moves, (System.start m).run moves = some b.system
  /-- What is published is queued, and what is taken off the queue is broadcast. -/
  told : b.dispatcher.broadcast ++ b.dispatcher.queue = b.system.events
  senders : b.dispatcher.hasSenders = true
  /-- The dispatcher is told to stop when the monitor has ended. -/
  signal : b.dispatcher.signal ≠ .quiet ↔ b.stage.isLate = true
  idle : b.stage.isLate = true → b.system.agenda = []
  ended : b.dispatcher.ended = true → b.dispatcher.queue = [] ∧ b.stage.isLate = true
  down : b.stage = .down → b.dispatcher.ended = true
  /-- Nobody is called but for an event that is broadcast. -/
  silent : b.dispatcher.broadcast = [] → b.dispatcher.deliveries = []
  fresh : b.listeners.Fresh

/-- Once the monitor has ended it is stopped, and there are no devices. -/
theorem Sound.of_ended (h : Sound b) (hagenda : b.system.agenda = []) :
    b.system.status = .stopped ∧ b.system.shared.registry = .empty := by
  obtain ⟨m, moves, hrun⟩ := h.reached
  have hcourse := (System.Course.start m).run hrun
  rw [hagenda] at hcourse
  cases hcourse with
  | ended hstatus hempty => exact ⟨hstatus, hempty⟩

theorem start_eq {s : Settings} (h : start s = .ok b) :
    b = ⟨.start s.monitor, .new, .empty, .running⟩ := by
  unfold start at h
  cases hend : s.endpoint with
  | error e =>
    rw [hend] at h
    cases h
  | ok endpoint =>
    rw [hend] at h
    cases h
    rfl

theorem Sound.start {s : Settings} (h : Bridge.start s = .ok b) : Sound b := by
  rw [start_eq h]
  exact
    { reached := ⟨s.monitor, [], rfl⟩
      told := rfl
      senders := rfl
      signal := ⟨fun h => absurd rfl h, nofun⟩
      idle := nofun
      ended := nofun
      down := nofun
      silent := fun _ => rfl
      fresh := nofun }

/-- What a move of the monitor or of a task publishes is queued. Once the dispatcher has ended that is
nothing. -/
theorem Sound.withSystem (h : Sound b) {m : System.Move} {s : System}
    (hm : b.system.move m = some s) :
    ∃ new, s.events = b.system.events ++ new ∧
      b.withSystem s = { b with
        system := s, dispatcher := { b.dispatcher with queue := b.dispatcher.queue ++ new } } := by
  obtain ⟨-, hevents⟩ := System.does_move hm
  refine ⟨_, hevents, ?_⟩
  rw [Bridge.withSystem, hevents, List.drop_left]
  cases hended : b.dispatcher.ended with
  | false => rw [sendAll_of_open hended]
  | true =>
    have hagenda := h.idle (h.ended hended).2
    obtain ⟨-, -, -, hsame⟩ := System.move_of_ended hagenda (h.of_ended hagenda).2 hm
    rw [hsame, List.self_eq_append_right] at hevents
    rw [hevents, List.append_nil]
    rfl

theorem Sound.system (h : Sound b) {m : System.Move} {s : System}
    (hm : b.system.move m = some s) : Sound (b.withSystem s) := by
  obtain ⟨new, hevents, hb⟩ := h.withSystem hm
  rw [hb]
  exact
    { reached := by
        obtain ⟨settings, moves, hrun⟩ := h.reached
        refine ⟨settings, moves ++ [m], ?_⟩
        rw [System.run_append, hrun, Option.bind_some, System.run_singleton, hm]
      told := by rw [hevents, ← h.told, List.append_assoc]
      senders := h.senders
      signal := h.signal
      idle := fun hlate =>
        (System.move_of_ended (h.idle hlate) (h.of_ended (h.idle hlate)).2 hm).1
      ended := fun hended => by
        obtain ⟨hqueue, hlate⟩ := h.ended hended
        have hagenda := h.idle hlate
        obtain ⟨-, -, -, hsame⟩ := System.move_of_ended hagenda (h.of_ended hagenda).2 hm
        rw [hsame, List.self_eq_append_right] at hevents
        exact ⟨by rw [hqueue, hevents]; rfl, hlate⟩
      down := h.down
      silent := h.silent
      fresh := h.fresh }

theorem Sound.dispatch (h : Sound b) {d : Dispatcher}
    (ht : Dispatcher.Turns b.listeners b.dispatcher d) : Sound { b with dispatcher := d } := by
  cases ht with
  | @deliver e rest hqueue hopen =>
    have htold : (b.dispatcher.broadcast ++ [e]) ++ rest = b.system.events := by
      rw [← h.told, hqueue, List.append_assoc]
      rfl
    exact { h with
      told := htold
      ended := fun hended => absurd (hopen.symm.trans hended) nofun
      silent := fun hnone => absurd hnone (by simp [Dispatcher.deliver]) }
  | close hqueue hopen hwhy =>
    have hlate : b.stage.isLate = true := by
      rcases hwhy with hsenders | hsignal
      · exact absurd (hsenders.symm.trans h.senders) nofun
      · exact h.signal.1 hsignal
    exact { h with ended := fun _ => ⟨hqueue, hlate⟩, down := fun _ => rfl }

theorem Sound.goes (h : Sound b) {m : Move} (hg : Goes b m b') : Sound b' := by
  have hnot : ∀ {stage : Stage}, b.stage = stage → stage.isLate = false →
      ¬ b.stage.isLate = true := by
    rintro stage rfl hlate
    simp [hlate]
  cases hg with
  | system hm => exact h.system hm
  | dispatch hd => exact h.dispatch hd
  | tell hstage =>
    exact { h with
      signal := ⟨fun hs => absurd (h.signal.1 hs) (hnot hstage rfl), nofun⟩
      idle := nofun
      ended := fun hended => absurd (h.ended hended).2 (hnot hstage rfl)
      down := nofun }
  | drain hstage hagenda =>
    exact { h with
      signal := ⟨fun _ => rfl, fun _ => nofun⟩
      idle := fun _ => hagenda
      ended := fun hended => absurd (h.ended hended).2 (hnot hstage rfl)
      down := nofun }
  | finish hstage hended =>
    have hlate : b.stage.isLate = true := by
      rw [hstage]
      rfl
    exact { h with
      signal := ⟨fun _ => rfl, fun _ => h.signal.2 hlate⟩
      idle := fun _ => h.idle hlate
      ended := fun hended => ⟨(h.ended hended).1, rfl⟩
      down := fun _ => hended }
  | stay => exact h
  | listen => exact { h with fresh := h.fresh.add }
  | unlisten id => exact { h with fresh := h.fresh.remove id }

/-! ## Runs -/

theorem run_cons {m : Move} : b.run (m :: moves) = (b.move m).bind fun b => b.run moves := rfl

theorem run_append : b.run (moves ++ more) = (b.run moves).bind fun b => b.run more := by
  rw [run, List.foldlM_append]
  rfl

/-- What every move keeps, every run keeps. -/
theorem run_induction {P : Bridge → Prop} (hmove : ∀ {b m b'}, m ∈ moves → P b →
    b.move m = some b' → P b') (h : P b) (hrun : b.run moves = some b') : P b' := by
  induction moves generalizing b with
  | nil =>
    cases hrun
    exact h
  | cons m moves ih =>
    obtain ⟨b₁, hm, hrun⟩ := Option.bind_eq_some_iff.1 hrun
    exact ih (fun hmem => hmove (List.mem_cons_of_mem _ hmem))
      (hmove List.mem_cons_self h hm) hrun

theorem Sound.run (h : Sound b) (hrun : b.run moves = some b') : Sound b' :=
  run_induction (fun _ h hm => h.goes (goes_of_move hm)) h hrun

theorem Goes.run_system {m : Move} (hg : Goes b m b') :
    b.system.run m.system?.toList = some b'.system := by
  cases hg with
  | @system m s hm => exact System.run_singleton.trans hm
  | dispatch | tell | drain | finish | stay | listen | unlisten => rfl

theorem systemMoves_cons (m : Move) (moves : List Move) :
    systemMoves (m :: moves) = m.system?.toList ++ systemMoves moves := by
  unfold systemMoves
  cases h : m.system? <;> simp [h]

/-- The system of a bridge takes the steps that are its own. -/
theorem run_systemMoves (hrun : b.run moves = some b') :
    b.system.run (systemMoves moves) = some b'.system := by
  induction moves generalizing b with
  | nil =>
    cases hrun
    rfl
  | cons m moves ih =>
    obtain ⟨b₁, hm, hrun⟩ := Option.bind_eq_some_iff.1 hrun
    rw [systemMoves_cons, System.run_append, (goes_of_move hm).run_system]
    exact ih hrun

/-- Before the first device list nothing is published. -/
theorem events_eq_nil {settings : Settings} {b₀ : Bridge} (hstart : start settings = .ok b₀)
    (hrun : b₀.run moves = some b) (hfirst : ∀ list, .system (.hear (.list list)) ∉ moves) :
    b.system.events = [] := by
  have hmoves := run_systemMoves hrun
  rw [start_eq hstart] at hmoves
  refine System.events_eq_nil_of_no_list hmoves fun list hlist => ?_
  obtain ⟨m, hm, hsignal⟩ := List.mem_filterMap.1 hlist
  obtain ⟨move, hmove, hsys⟩ := List.mem_filterMap.1 hm
  cases move with
  | system m =>
    cases hsys
    cases m with
    | hear a =>
      cases hsignal
      exact hfirst list hmove
    | _ => cases hsignal
  | _ => cases hsys

/-! ## A listener -/

/-- A listener has been called for each event that has been broadcast, and is registered. -/
structure Attends (id : Nat) (b : Bridge) : Prop where
  known : id < b.listeners.next
  once : b.listeners.registered.filter (· == id) = [id]
  calls : b.dispatcher.callsTo id = b.dispatcher.broadcast.map (·.callback)

theorem Attends.goes (h : Attends id b) (hs : Sound b) {m : Move} (hg : Goes b m b')
    (hkept : m ≠ .unlisten id) : Attends id b' := by
  cases hg with
  | system hm =>
    obtain ⟨new, -, hb⟩ := hs.withSystem hm
    rw [hb]
    exact ⟨h.known, h.once, h.calls⟩
  | dispatch hd =>
    cases hd with
    | @deliver e rest hqueue hopen =>
      refine ⟨h.known, h.once, ?_⟩
      rw [Dispatcher.callsTo_deliver h.once]
      show b.dispatcher.callsTo id ++ _ = (b.dispatcher.broadcast ++ [e]).map _
      rw [h.calls, List.map_append]
      rfl
    | close => exact ⟨h.known, h.once, h.calls⟩
  | tell | drain | finish | stay => exact ⟨h.known, h.once, h.calls⟩
  | listen =>
    exact ⟨Nat.lt_succ_of_lt h.known, Listeners.filter_add_of_lt h.known h.once, h.calls⟩
  | unlisten other =>
    have hne : other ≠ id := fun he => hkept (he ▸ rfl)
    exact ⟨h.known, Listeners.filter_remove_of_ne hne h.once, h.calls⟩

theorem Attends.run (h : Attends id b) (hs : Sound b) (hrun : b.run moves = some b')
    (hkept : .unlisten id ∉ moves) : Attends id b' := by
  have : Sound b' ∧ Attends id b' := by
    refine run_induction (P := fun b => Sound b ∧ Attends id b) ?_ ⟨hs, h⟩ hrun
    rintro b m b' hmem ⟨hs, h⟩ hm
    exact ⟨hs.goes (goes_of_move hm),
      h.goes hs (goes_of_move hm) fun he => hkept (he ▸ hmem)⟩
  exact this.2

/-- Whoever begins to listen before anything is published attends. -/
theorem Sound.attends_listen (h : Sound b) (hnone : b.system.events = []) :
    Attends b.listen.1 b.listen.2 := by
  have hbroadcast : b.dispatcher.broadcast = [] :=
    (List.append_eq_nil_iff.1 (h.told.trans hnone)).1
  refine ⟨Nat.lt_succ_self _, h.fresh.filter_add, ?_⟩
  show b.dispatcher.callsTo _ = b.dispatcher.broadcast.map _
  rw [Dispatcher.callsTo, h.silent hbroadcast, hbroadcast]
  rfl

/-! ## The bridge can be shut down -/

/-- The bridge can get there while all listeners stay. -/
def LeadsTo (b b' : Bridge) : Prop := ∃ moves, b.run moves = some b' ∧ ∀ id, .unlisten id ∉ moves

theorem LeadsTo.refl (b : Bridge) : LeadsTo b b := ⟨[], rfl, nofun⟩

theorem LeadsTo.trans {b'' : Bridge} (h : LeadsTo b b') (h' : LeadsTo b' b'') : LeadsTo b b'' := by
  obtain ⟨moves, hrun, hmoves⟩ := h
  obtain ⟨more, hrun', hmore⟩ := h'
  refine ⟨moves ++ more, ?_, fun id hid => ?_⟩
  · rw [run_append, hrun]
    exact hrun'
  · exact (List.mem_append.1 hid).elim (hmoves id) (hmore id)

theorem LeadsTo.of_move {m : Move} (hm : b.move m = some b') (hkept : ∀ id, m ≠ .unlisten id) :
    LeadsTo b b' := by
  refine ⟨[m], ?_, fun id hid => hkept id (List.mem_singleton.1 hid).symm⟩
  rw [run_cons, hm]
  rfl

theorem LeadsTo.of_system {moves : List System.Move} {s : System}
    (hrun : b.system.run moves = some s) (hallowed : ∀ m ∈ moves, b.allows m = true) :
    ∃ b', LeadsTo b b' ∧ b'.system = s ∧ b'.stage = b.stage := by
  induction moves generalizing b with
  | nil =>
    cases hrun
    exact ⟨b, .refl b, rfl, rfl⟩
  | cons m moves ih =>
    obtain ⟨hm, hmoves⟩ := List.forall_mem_cons.1 hallowed
    obtain ⟨s₁, hs₁, hrun⟩ := Option.bind_eq_some_iff.1 hrun
    have hmove : b.move (.system m) = some (b.withSystem s₁) := by
      rw [move, if_pos hm, hs₁]
      rfl
    obtain ⟨b', hb', hsystem, hstage⟩ := ih (b := b.withSystem s₁) hrun hmoves
    exact ⟨b', (LeadsTo.of_move hmove nofun).trans hb', hsystem, hstage⟩

/-- The monitor of a bridge that is being shut down can come to its end. -/
theorem exists_ended (h : Sound b) (hstage : b.stage = .stopping) :
    ∃ b', LeadsTo b b' ∧ b'.system.agenda = [] ∧ b'.stage = .stopping := by
  obtain ⟨m, before, hreached⟩ := h.reached
  have ho : System.Orderly b.system.agenda :=
    System.run_induction (fun ho hm => System.orderly_move ho hm) System.Orderly.opening hreached
  obtain ⟨moves, s, hrun, hagenda, hmoves⟩ := System.exists_run_ended ho
  obtain ⟨b', hb', hsystem, hstage'⟩ := LeadsTo.of_system hrun fun m hm => by
    rcases hmoves m hm with rfl | rfl
    · rfl
    · simp [allows, hstage]
  exact ⟨b', hb', hsystem ▸ hagenda, hstage'.trans hstage⟩

/-- A dispatcher that has been told to stop can come to its end. -/
theorem exists_drained (h : Sound b) (hstage : b.stage = .draining) :
    ∃ b', LeadsTo b b' ∧ b'.dispatcher.ended = true ∧ b'.stage = .draining := by
  generalize hqueue : b.dispatcher.queue = queue
  induction queue generalizing b with
  | nil =>
    cases hended : b.dispatcher.ended with
    | true => exact ⟨b, .refl b, hended, hstage⟩
    | false =>
      have hsignal : b.dispatcher.signal ≠ .quiet := h.signal.2 (by rw [hstage]; rfl)
      have hmove : b.move .dispatch =
          some { b with dispatcher := { b.dispatcher with ended := true } } := by
        rw [move, Dispatcher.turn_of_signal hended hqueue h.senders hsignal]
        rfl
      exact ⟨_, .of_move hmove nofun, rfl, hstage⟩
  | cons e rest ih =>
    have hopen : b.dispatcher.ended = false := by
      refine Bool.eq_false_iff.2 fun hended => ?_
      rw [(h.ended hended).1] at hqueue
      cases hqueue
    obtain ⟨d, hturn, hrest⟩ := Dispatcher.turn_of_queue (l := b.listeners) hopen hqueue
    have hmove : b.move .dispatch = some { b with dispatcher := d } := by
      rw [move, hturn]
      rfl
    obtain ⟨b', hb', hended, hstage'⟩ := ih (h.goes (goes_of_move hmove)) hstage hrest
    exact ⟨b', (LeadsTo.of_move hmove nofun).trans hb', hended, hstage'⟩

/-- A bridge can be shut down at any time. -/
theorem exists_down (h : Sound b) : ∃ b', LeadsTo b b' ∧ b'.stage = .down := by
  have hsound : ∀ {b b' : Bridge}, Sound b → LeadsTo b b' → Sound b' :=
    fun h ⟨_, hrun, _⟩ => h.run hrun
  have hdraining : ∀ {b : Bridge}, Sound b → b.stage = .draining →
      ∃ b', LeadsTo b b' ∧ b'.stage = .down := by
    intro b h hstage
    obtain ⟨b₁, hb₁, hended, hstage₁⟩ := exists_drained h hstage
    have hmove : b₁.move .shutdown = some { b₁ with stage := .down } := by
      simp only [move, hstage₁, hended, if_true]
    exact ⟨_, hb₁.trans (.of_move hmove nofun), rfl⟩
  have hstopping : ∀ {b : Bridge}, Sound b → b.stage = .stopping →
      ∃ b', LeadsTo b b' ∧ b'.stage = .down := by
    intro b h hstage
    obtain ⟨b₁, hb₁, hagenda, hstage₁⟩ := exists_ended h hstage
    have hmove : b₁.move .shutdown = some { b₁ with
        stage := .draining, dispatcher := { b₁.dispatcher with signal := .raised } } := by
      simp only [move, hstage₁, hagenda, List.isEmpty_nil, if_true]
    have hlead := hb₁.trans (.of_move hmove nofun)
    obtain ⟨b', hb', hdown⟩ := hdraining (hsound h hlead) rfl
    exact ⟨b', hlead.trans hb', hdown⟩
  cases hstage : b.stage with
  | running =>
    have hmove : b.move .shutdown = some { b with stage := .stopping } := by
      simp only [move, hstage]
    have hlead := LeadsTo.of_move hmove nofun
    obtain ⟨b', hb', hdown⟩ := hstopping (hsound h hlead) rfl
    exact ⟨b', hlead.trans hb', hdown⟩
  | stopping => exact hstopping h hstage
  | draining => exact hdraining h hstage
  | down => exact ⟨b, .refl b, hstage⟩

/-! ## Once it is down -/

/-- A bridge that is down does nothing more. -/
theorem Sound.run_down (h : Sound b) (hdown : b.stage = .down) (hrun : b.run moves = some b') :
    b'.stage = .down ∧ b'.dispatcher = b.dispatcher ∧ b'.system.events = b.system.events := by
  have hkeep : Sound b' ∧ b'.stage = .down ∧ b'.dispatcher = b.dispatcher ∧
      b'.system.events = b.system.events := by
    refine run_induction (P := fun b' => Sound b' ∧ b'.stage = .down ∧
      b'.dispatcher = b.dispatcher ∧ b'.system.events = b.system.events) ?_
      ⟨h, hdown, rfl, rfl⟩ hrun
    rintro b₁ m b₂ - ⟨h₁, hdown₁, hdispatcher, hevents⟩ hm
    have hg := goes_of_move hm
    refine ⟨h₁.goes hg, ?_⟩
    cases hg with
    | @system m s hs =>
      have hagenda := h₁.idle (by rw [hdown₁]; rfl)
      obtain ⟨-, -, -, hsame⟩ := System.move_of_ended hagenda (h₁.of_ended hagenda).2 hs
      obtain ⟨new, hnew, hb⟩ := h₁.withSystem hs
      rw [hsame, List.self_eq_append_right] at hnew
      rw [hb, hnew, List.append_nil]
      exact ⟨hdown₁, hdispatcher, hsame.trans hevents⟩
    | dispatch hd =>
      have hended := h₁.down hdown₁
      cases hd with
      | deliver _ hopen | close _ hopen => exact absurd (hopen.symm.trans hended) nofun
    | tell hstage | drain hstage | finish hstage =>
      rw [hdown₁] at hstage
      cases hstage
    | stay | listen | unlisten => exact ⟨hdown₁, hdispatcher, hevents⟩
  exact hkeep.2

/-- With no devices left, all visits that have been told of are over. -/
theorem Sound.visits (h : Sound b) (hempty : b.system.shared.registry = .empty) (serial : String) :
    Callback.Visits (Event.callsAbout serial b.system.events) := by
  obtain ⟨m, moves, hrun⟩ := h.reached
  obtain ⟨hregistry, hevents⟩ := System.run_history hrun
  rw [hempty] at hregistry
  rw [hevents]
  obtain ⟨hfits, happly⟩ := Registry.leadsTo_performAll .empty ((System.start m).history moves)
  have hregistry' : (Registry.empty.performAll ((System.start m).history moves)).1 = .empty :=
    hregistry.symm
  rw [hregistry'] at happly
  exact (Replica.visits_of_fits hfits (congrArg (Dict.get? · serial) happly)).1 rfl

/-- **Main theorem.** Let somebody begin to listen before the monitor has heard of a device list, and
stay. Nothing has been published by then. Whatever happens after that, the bridge can be shut down. Once it
is down,
* the listener has been called for each event published, in order and once;
* the calls about each device tell of visits, the last of which is over;
* the monitor has stopped, and there are no devices;
* to shut down once more changes nothing, and whatever else is done, nothing is published and nobody is
  called any more. -/
theorem run_shutdown (settings : Settings) {before : List Move} {b₀ b₁ : Bridge}
    (hstart : Bridge.start settings = .ok b₀) (hbefore : b₀.run before = some b₁)
    (hfirst : ∀ list, .system (.hear (.list list)) ∉ before) :
    b₁.system.events = [] ∧
    ∀ after b, b₁.listen.2.run after = some b → .unlisten b₁.listen.1 ∉ after →
      (∃ more b', b.run more = some b' ∧ .unlisten b₁.listen.1 ∉ more ∧ b'.stage = .down) ∧
      (b.stage = .down →
        b.dispatcher.callsTo b₁.listen.1 = b.system.events.map (·.callback) ∧
        (∀ serial, Callback.Visits
          ((b.dispatcher.callsTo b₁.listen.1).filter (·.serial == serial))) ∧
        b.system.status = .stopped ∧ b.system.shared.registry = .empty ∧
        b.move .shutdown = some b ∧
        ∀ more b', b.run more = some b' →
          b'.stage = .down ∧ b'.dispatcher = b.dispatcher ∧
          b'.system.events = b.system.events ∧
          b'.system.status = .stopped ∧ b'.system.shared.registry = .empty) := by
  have hsound₁ : Sound b₁ := (Sound.start hstart).run hbefore
  have hnone : b₁.system.events = [] := events_eq_nil hstart hbefore hfirst
  refine ⟨hnone, fun after b hafter hkept => ?_⟩
  have hsound₂ : Sound b₁.listen.2 := hsound₁.goes .listen
  have hsound : Sound b := hsound₂.run hafter
  have hattends : Attends b₁.listen.1 b :=
    (hsound₁.attends_listen hnone).run hsound₂ hafter hkept
  obtain ⟨b', ⟨more, hmore, hmoves⟩, hdown'⟩ := exists_down hsound
  refine ⟨⟨more, b', hmore, hmoves _, hdown'⟩, fun hdown => ?_⟩
  have hlate : b.stage.isLate = true := by
    rw [hdown]
    rfl
  obtain ⟨hstopped, hempty⟩ := hsound.of_ended (hsound.idle hlate)
  have hcalls : b.dispatcher.callsTo b₁.listen.1 = b.system.events.map (·.callback) := by
    rw [hattends.calls, ← hsound.told, (hsound.ended (hsound.down hdown)).1, List.append_nil]
  refine ⟨hcalls, fun serial => ?_, hstopped, hempty, ?_, fun more b' hmore => ?_⟩
  · rw [hcalls, Event.filter_callbacks]
    exact hsound.visits hempty serial
  · simp only [move, hdown]
  · obtain ⟨hdown', hdispatcher, hevents⟩ := hsound.run_down hdown hmore
    have hsound' := hsound.run hmore
    obtain ⟨hstopped', hempty'⟩ := hsound'.of_ended (hsound'.idle (by rw [hdown']; rfl))
    exact ⟨hdown', hdispatcher, hevents, hstopped', hempty'⟩

/-- A device is online when the stream is lost, and offline when the bridge is shut down. Most of what is
told of it is still queued then. -/
def twoVisits : List Move :=
  [.system (.hear .accepted), .system (.hear (.list [⟨"a", .online⟩])), .system .work, .dispatch,
    .system .work, .system (.hear .lost), .system .work, .system .work, .system .work,
    .system .work, .system (.hear .woke), .system (.hear .accepted),
    .system (.hear (.list [⟨"a", .offline⟩])), .system .work, .system .work, .shutdown,
    .system (.hear .shutdown), .system .work, .system .work, .shutdown, .dispatch, .dispatch,
    .dispatch, .dispatch, .shutdown]

theorem shutdown_twoVisits :
    ∃ b₀ b, Bridge.start .standard = .ok b₀ ∧ b₀.listen.2.run twoVisits = some b ∧
      b.stage = .down ∧ b.dispatcher.callsTo b₀.listen.1 = b.system.events.map (·.callback) ∧
      b.dispatcher.callsTo b₀.listen.1 =
        [.deviceConnected ((Record.fresh .online).snapshot "a"),
          .deviceDisconnected ((Record.fresh .disconnected).snapshot "a"),
          .deviceConnected ((Record.fresh .offline).snapshot "a"),
          .deviceDisconnected ((Record.fresh .disconnected).snapshot "a")] ∧
      b.system.status = .stopped ∧ b.move .shutdown = some b := by
  obtain ⟨b₀, hstart⟩ : ∃ b₀, Bridge.start .standard = .ok b₀ := ⟨_, rfl⟩
  have hrun : (b₀.listen.2.run twoVisits).map (fun b =>
      (b.stage, b.dispatcher.callsTo b₀.listen.1)) =
      some (.down, [.deviceConnected ((Record.fresh .online).snapshot "a"),
        .deviceDisconnected ((Record.fresh .disconnected).snapshot "a"),
        .deviceConnected ((Record.fresh .offline).snapshot "a"),
        .deviceDisconnected ((Record.fresh .disconnected).snapshot "a")]) := by
    rw [start_eq hstart]
    decide +kernel
  obtain ⟨b, hb, hpair⟩ := Option.map_eq_some_iff.1 hrun
  obtain ⟨hdown, hcalls⟩ := Prod.mk.inj hpair
  have hbefore : b₀.run [] = some b₀ := rfl
  obtain ⟨-, hall⟩ := run_shutdown .standard hstart hbefore nofun
  have hkept : .unlisten b₀.listen.1 ∉ twoVisits := by simp [twoVisits]
  obtain ⟨heach, -, hstopped, -, hagain, -⟩ := (hall twoVisits b hb hkept).2 hdown
  exact ⟨b₀, b, hstart, hb, hdown, heach, hcalls, hstopped, hagain⟩

end Bridge

end DebugBridge
