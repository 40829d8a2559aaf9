import DebugBridge.Events.Interleaving
import DebugBridge.Proofs.Events.Dispatcher
import Mathlib.Data.List.Induction
import Mathlib.Data.List.Nodup

/-!
# What is sent before the end is delivered

Whatever other threads do between the looks of the dispatcher, each event goes from the queue to all
listeners and to the broadcast channel, in the order of the queue. Before the dispatcher is told to stop
it cannot leave its loop, so all that is sent is queued (`Attending`). It leaves the loop only when it
finds the queue empty, so all that was sent before it was told is delivered (`Parting`), and it comes to
that (`exists_ended`).

Results: `Backlog.foldl_push`, `Parting.run`, `exists_ended`, `exists_looks_of_settle`, `run_of_stop`.
-/

namespace DebugBridge

/-! ## The broadcast channel -/

namespace Backlog

theorem lost_of (sent : List Event) :
    (Backlog.of sent).lost = sent.length - broadcastCapacity := by
  simp only [Backlog.of]

theorem kept_suffix_of (sent : List Event) : (Backlog.of sent).kept <:+ sent := by
  simp only [Backlog.of]
  exact List.drop_suffix (sent.length - broadcastCapacity) sent

theorem length_kept_of (sent : List Event) :
    (Backlog.of sent).kept.length = min sent.length broadcastCapacity := by
  rw [Backlog.of, List.length_drop]
  omega

/-- The backlog of one event more. -/
theorem of_append_singleton (sent : List Event) (e : Event) :
    Backlog.of (sent ++ [e]) = (Backlog.of sent).push e := by
  have hlength := length_kept_of sent
  have hpos : 0 < broadcastCapacity := by decide
  rw [push]
  split
  · rename_i hroom
    have hnone : sent.length + 1 - broadcastCapacity = 0 := by omega
    have hnone' : sent.length - broadcastCapacity = 0 := by omega
    simp only [Backlog.of, List.length_append, List.length_singleton, hnone, hnone', List.drop_zero]
  · rename_i hfull
    have hmore : sent.length + 1 - broadcastCapacity = sent.length - broadcastCapacity + 1 := by omega
    simp only [Backlog.of, List.length_append, List.length_singleton, hmore, List.tail_drop,
      List.drop_append_of_le_length (show sent.length - broadcastCapacity + 1 ≤ sent.length by omega)]

/-- The channel that is filled with one event after the other keeps the newest. -/
theorem foldl_push (sent : List Event) : sent.foldl push ⟨0, []⟩ = Backlog.of sent := by
  induction sent using List.reverseRecOn with
  | nil => rfl
  | append_singleton sent e ih =>
    rw [List.foldl_append, ih, List.foldl_cons, List.foldl_nil, of_append_singleton]

end Backlog

namespace Dispatching

variable {l : Listeners} {p p' : Dispatching} {first sent : List Event} {yields : Bool}

theorem run_cons (l : Listeners) (p : Dispatching) (a : DispatchAct) (acts : List DispatchAct) :
    run l p (a :: acts) = run l (act l p a) acts := rfl

theorem run_append (l : Listeners) (p : Dispatching) (acts more : List DispatchAct) :
    run l p (acts ++ more) = run l (run l p acts) more := List.foldl_append

/-! ## From one look to the next -/

/-- What the dispatcher may do from one look to the next. -/
inductive Goes (l : Listeners) (p : Dispatching) (yields : Bool) : Dispatching → Prop
  | rest (h : p.dispatcher.ended = true) : Goes l p yields p
  | deliver {e : Event} {rest : List Event} (hopen : p.dispatcher.ended = false)
    (hstage : p.stage = .polling ∨ p.stage = .draining) (hqueue : p.dispatcher.queue = e :: rest) :
    Goes l p yields { p with dispatcher := .deliver l { p.dispatcher with queue := rest } e }
  | look (hopen : p.dispatcher.ended = false) (hstage : p.stage = .polling)
    (hwhy : yields = true ∨ p.dispatcher.queue = [] ∧ p.dispatcher.hasSenders = true) :
    Goes l p yields { p with stage := .looking }
  | again (hopen : p.dispatcher.ended = false) (hstage : p.stage = .looking)
    (hsignal : p.dispatcher.signal = .quiet) : Goes l p yields { p with stage := .polling }
  | heed (hopen : p.dispatcher.ended = false) (hstage : p.stage = .looking)
    (hsignal : p.dispatcher.signal ≠ .quiet) : Goes l p yields { p with stage := .draining }
  | leave (hopen : p.dispatcher.ended = false) (hqueue : p.dispatcher.queue = [])
    (hwhy : p.stage = .polling ∧ p.dispatcher.hasSenders = false ∨ p.stage = .draining) :
    Goes l p yields { p with stage := .leaving }
  | close (hopen : p.dispatcher.ended = false) (hstage : p.stage = .leaving) :
    Goes l p yields { p with dispatcher := { p.dispatcher with ended := true } }

theorem goes_next (l : Listeners) (p : Dispatching) (yields : Bool) :
    Goes l p yields (p.next l yields) := by
  obtain ⟨d, stage⟩ := p
  unfold next
  by_cases hended : d.ended = true
  · rw [if_pos hended]
    exact .rest hended
  rw [if_neg hended]
  have hopen : d.ended = false := by simpa using hended
  cases stage with
  | polling =>
    cases yields with
    | true => exact .look hopen rfl (.inl rfl)
    | false =>
      simp only [Bool.false_eq_true, if_false]
      cases hqueue : d.queue with
      | cons e rest => exact .deliver hopen (.inl rfl) hqueue
      | nil =>
        cases hsenders : d.hasSenders with
        | true => exact .look hopen rfl (.inr ⟨hqueue, hsenders⟩)
        | false => exact .leave hopen hqueue (.inl ⟨rfl, hsenders⟩)
  | looking =>
    by_cases hsignal : d.signal = .quiet
    · simp only [if_pos hsignal]
      exact .again hopen rfl hsignal
    · simp only [if_neg hsignal]
      exact .heed hopen rfl hsignal
  | draining =>
    simp only
    cases hqueue : d.queue with
    | cons e rest => exact .deliver hopen (.inr rfl) hqueue
    | nil => exact .leave hopen hqueue (.inr rfl)
  | leaving => exact .close hopen rfl

/-! ## Before the dispatcher is told to stop -/

/-- A dispatcher that was not told to stop, after some events were sent. -/
structure Attending (l : Listeners) (sent : List Event) (p : Dispatching) : Prop where
  isOpen : p.dispatcher.ended = false
  hasSenders : p.dispatcher.hasSenders = true
  quiet : p.dispatcher.signal = .quiet
  /-- It is in its loop. -/
  loops : p.stage = .polling ∨ p.stage = .looking
  /-- What was sent is broadcast, or still queued. -/
  inOrder : p.dispatcher.broadcast ++ p.dispatcher.queue = sent
  /-- The listeners are told what is broadcast. -/
  delivered : p.dispatcher.deliveries = p.dispatcher.broadcast.flatMap l.notify

theorem Attending.start (l : Listeners) : Attending l [] start :=
  ⟨rfl, rfl, rfl, .inl rfl, rfl, rfl⟩

theorem Attending.goes (h : Attending l sent p) (hgoes : Goes l p yields p') :
    Attending l sent p' := by
  cases hgoes with
  | rest hended => exact h
  | deliver hopen hstage hqueue =>
    refine ⟨h.isOpen, h.hasSenders, h.quiet, h.loops, ?_, ?_⟩
    · rw [← h.inOrder, hqueue]
      exact List.append_assoc ..
    · show _ ++ _ = _
      rw [h.delivered, Dispatcher.deliver, List.flatMap_append, List.flatMap_singleton]
  | look => exact ⟨h.isOpen, h.hasSenders, h.quiet, .inr rfl, h.inOrder, h.delivered⟩
  | again => exact ⟨h.isOpen, h.hasSenders, h.quiet, .inl rfl, h.inOrder, h.delivered⟩
  | heed hopen hstage hsignal => exact absurd h.quiet hsignal
  | leave hopen hqueue hwhy =>
    rcases hwhy with ⟨-, hsenders⟩ | hstage
    · rw [h.hasSenders] at hsenders
      cases hsenders
    · rcases h.loops with hloops | hloops <;> cases hloops.symm.trans hstage
  | close hopen hstage => rcases h.loops with hloops | hloops <;> cases hloops.symm.trans hstage

theorem Attending.act {a : DispatchAct} (h : Attending l sent p) (ha : a.isStop = false) :
    Attending l (sent ++ a.sent?.toList) (act l p a) := by
  cases a with
  | send e =>
    have hsend : Dispatching.act l p (.send e) =
        { p with dispatcher := { p.dispatcher with queue := p.dispatcher.queue ++ [e] } } := by
      simp [Dispatching.act, Dispatcher.send, h.hasSenders, h.isOpen]
    rw [hsend]
    refine ⟨h.isOpen, h.hasSenders, h.quiet, h.loops, ?_, h.delivered⟩
    rw [← h.inOrder]
    exact (List.append_assoc ..).symm
  | stop cause => cases ha
  | goOn yields =>
    rw [show DispatchAct.sent? _ = none from rfl, Option.toList_none, List.append_nil]
    exact h.goes (goes_next l p yields)

theorem filterMap_cons_toList (a : DispatchAct) (acts : List DispatchAct) :
    (a :: acts).filterMap (·.sent?) = a.sent?.toList ++ acts.filterMap (·.sent?) := by
  cases a <;> rfl

theorem Attending.run {acts : List DispatchAct} (h : Attending l sent p)
    (hacts : ∀ a ∈ acts, a.isStop = false) :
    Attending l (sent ++ acts.filterMap (·.sent?)) (run l p acts) := by
  induction acts generalizing p sent with
  | nil =>
    rw [List.filterMap_nil, List.append_nil]
    exact h
  | cons a acts ih =>
    obtain ⟨ha, hacts⟩ := List.forall_mem_cons.1 hacts
    rw [filterMap_cons_toList, ← List.append_assoc, run_cons]
    exact ih (h.act ha) hacts

/-! ## After it was told -/

/-- A dispatcher that was told to stop when the events `first` had been sent, after some more were
sent. -/
structure Parting (l : Listeners) (first sent : List Event) (p : Dispatching) : Prop where
  /-- It has a reason to leave its loop. -/
  stops : p.dispatcher.hasSenders = false ∨ p.dispatcher.signal ≠ .quiet
  /-- What was sent is broadcast, or still queued, as far as it was accepted. -/
  inOrder : ∃ accepted, accepted.Sublist sent ∧
    p.dispatcher.broadcast ++ p.dispatcher.queue = first ++ accepted
  /-- It has left its loop only with all of `first` broadcast. -/
  whole : p.stage = .leaving → first <+: p.dispatcher.broadcast
  /-- It ends only when it has left its loop. -/
  left : p.dispatcher.ended = true → p.stage = .leaving
  delivered : p.dispatcher.deliveries = p.dispatcher.broadcast.flatMap l.notify

/-- The dispatcher is told to stop. -/
theorem Attending.told (h : Attending l sent p) (cause : StopCause) :
    Parting l sent [] (Dispatching.act l p (.stop cause)) where
  stops := by cases cause <;> simp [Dispatching.act, Dispatcher.told]
  inOrder := by
    refine ⟨[], .slnil, ?_⟩
    rw [List.append_nil, ← h.inOrder]
    cases cause <;> rfl
  whole := by
    intro hstage
    have hstage : p.stage = .leaving := hstage
    rcases h.loops with hloops | hloops <;> cases hloops.symm.trans hstage
  left := by
    intro hended
    have hopen := h.isOpen
    cases cause <;> cases hopen.symm.trans hended
  delivered := by cases cause <;> exact h.delivered

theorem Parting.goes (h : Parting l first sent p) (hgoes : Goes l p yields p') :
    Parting l first sent p' := by
  cases hgoes with
  | rest hended => exact h
  | @deliver e rest hopen hstage hqueue =>
    obtain ⟨accepted, haccepted, horder⟩ := h.inOrder
    refine ⟨h.stops, ⟨accepted, haccepted, ?_⟩, ?_, ?_, ?_⟩
    · rw [← horder, hqueue]
      exact List.append_assoc ..
    · intro hleaving
      exact (h.whole hleaving).trans (List.prefix_append _ [e])
    · intro hended
      cases hopen.symm.trans hended
    · show _ ++ _ = _
      rw [h.delivered, Dispatcher.deliver, List.flatMap_append, List.flatMap_singleton]
  | look hopen | again hopen | heed hopen =>
    refine ⟨h.stops, h.inOrder, fun hleaving => ?_, fun hended => ?_, h.delivered⟩
    · cases hleaving
    · cases hopen.symm.trans hended
  | leave hopen hqueue hwhy =>
    refine ⟨h.stops, h.inOrder, fun _ => ?_, fun _ => rfl, h.delivered⟩
    obtain ⟨accepted, -, horder⟩ := h.inOrder
    rw [hqueue, List.append_nil] at horder
    exact ⟨accepted, horder.symm⟩
  | close hopen hstage => exact ⟨h.stops, h.inOrder, h.whole, fun _ => hstage, h.delivered⟩

theorem Parting.act (h : Parting l first sent p) (a : DispatchAct) :
    Parting l first (sent ++ a.sent?.toList) (act l p a) := by
  cases a with
  | send e =>
    obtain ⟨accepted, haccepted, horder⟩ := h.inOrder
    by_cases htaken : p.dispatcher.hasSenders = true ∧ p.dispatcher.ended = false
    · have hsend : Dispatching.act l p (.send e) =
          { p with dispatcher := { p.dispatcher with queue := p.dispatcher.queue ++ [e] } } := by
        simp [Dispatching.act, Dispatcher.send, htaken]
      rw [hsend]
      refine ⟨h.stops, ⟨accepted ++ [e], haccepted.append_right [e], ?_⟩, h.whole, h.left, h.delivered⟩
      rw [← List.append_assoc first, ← horder]
      exact (List.append_assoc ..).symm
    · have hsame : Dispatching.act l p (.send e) = p := by
        simp only [Dispatching.act, Dispatcher.send]
        split
        · rename_i hsenders
          have hended : p.dispatcher.ended = true := by simpa [hsenders] using htaken
          rw [if_pos hended]
        · rfl
      rw [hsame]
      exact ⟨h.stops, ⟨accepted, haccepted.trans (List.sublist_append_left ..), horder⟩, h.whole,
        h.left, h.delivered⟩
  | stop cause =>
    rw [show DispatchAct.sent? _ = none from rfl, Option.toList_none, List.append_nil]
    cases cause with
    | sendersGone => exact ⟨.inl rfl, h.inOrder, h.whole, h.left, h.delivered⟩
    | raised => exact ⟨.inr nofun, h.inOrder, h.whole, h.left, h.delivered⟩
    | lost => exact ⟨.inr nofun, h.inOrder, h.whole, h.left, h.delivered⟩
  | goOn yields =>
    rw [show DispatchAct.sent? _ = none from rfl, Option.toList_none, List.append_nil]
    exact h.goes (goes_next l p yields)

theorem Parting.run {acts : List DispatchAct} (h : Parting l first sent p) :
    Parting l first (sent ++ acts.filterMap (·.sent?)) (run l p acts) := by
  induction acts generalizing p sent with
  | nil =>
    rw [List.filterMap_nil, List.append_nil]
    exact h
  | cons a acts ih =>
    rw [filterMap_cons_toList, ← List.append_assoc, run_cons]
    exact ih (h.act a)

/-! ## The end -/

/-- The most looks that are left until the dispatcher has ended, if it has a reason to. -/
def looksLeft (p : Dispatching) : Nat :=
  if p.dispatcher.ended then 0
  else match p.stage with
    | .polling => p.dispatcher.queue.length + 4
    | .looking => p.dispatcher.queue.length + (if p.dispatcher.signal = .quiet then 5 else 3)
    | .draining => p.dispatcher.queue.length + 2
    | .leaving => 1

theorem looksLeft_goes (hopen : p.dispatcher.ended = false)
    (hstops : p.dispatcher.hasSenders = false ∨ p.dispatcher.signal ≠ .quiet)
    (hgoes : Goes l p false p') : p'.looksLeft < p.looksLeft := by
  cases hgoes with
  | rest hended => cases hopen.symm.trans hended
  | deliver _ hstage hqueue =>
    rcases hstage with hstage | hstage <;>
      simp [looksLeft, hopen, hstage, hqueue, Dispatcher.deliver]
  | look _ hstage hwhy =>
    obtain ⟨hqueue, hsenders⟩ : p.dispatcher.queue = [] ∧ p.dispatcher.hasSenders = true := by
      simpa using hwhy
    have hsignal : p.dispatcher.signal ≠ .quiet := by simpa [hsenders] using hstops
    simp [looksLeft, hopen, hstage, hsignal]
  | again _ hstage hsignal => simp [looksLeft, hopen, hstage, hsignal]
  | heed _ hstage hsignal => simp [looksLeft, hopen, hstage, hsignal]
  | leave _ hqueue hwhy =>
    rcases hwhy with ⟨hstage, -⟩ | hstage <;> simp [looksLeft, hopen, hstage]
  | close _ hstage => simp [looksLeft, hopen, hstage]

theorem stops_next (h : p.dispatcher.hasSenders = false ∨ p.dispatcher.signal ≠ .quiet)
    (hgoes : Goes l p yields p') :
    p'.dispatcher.hasSenders = false ∨ p'.dispatcher.signal ≠ .quiet := by
  cases hgoes <;> exact h

/-- A dispatcher that was told to stop comes to its end. -/
theorem exists_ended (l : Listeners)
    (h : p.dispatcher.hasSenders = false ∨ p.dispatcher.signal ≠ .quiet) {n : Nat}
    (hn : p.looksLeft ≤ n) :
    (run l p (List.replicate n (.goOn false))).dispatcher.ended = true := by
  induction n generalizing p with
  | zero =>
    show p.dispatcher.ended = true
    by_contra hopen
    rw [looksLeft, if_neg hopen] at hn
    cases hstage : p.stage <;> simp only [hstage] at hn
    case looking => split at hn <;> omega
    all_goals omega
  | succ n ih =>
    rw [List.replicate_succ, run_cons]
    have hgoes := goes_next l p false
    refine ih (stops_next h hgoes) ?_
    by_cases hended : p.dispatcher.ended = true
    · have hsame : p.next l false = p := by rw [next, if_pos hended]
      show (p.next l false).looksLeft ≤ n
      rw [hsame, looksLeft, if_pos hended]
      exact Nat.zero_le n
    · exact Nat.le_of_lt_succ
        (Nat.lt_of_lt_of_le (looksLeft_goes (by simpa using hended) h hgoes) hn)

/-! ## Uninterrupted turns -/

/-- Some looks with nothing in between. -/
def looks (l : Listeners) (p : Dispatching) (n : Nat) : Dispatching :=
  run l p (List.replicate n (.goOn false))

theorem looks_add (l : Listeners) (p : Dispatching) (n m : Nat) :
    looks l p (n + m) = looks l (looks l p n) m := by
  rw [looks, ← List.replicate_append_replicate, run_append]
  rfl

/-- A turn is some looks with nothing in between: it ends where the next one begins, unless it is the
last. -/
theorem exists_looks_of_turn {d d' : Dispatcher} (h : d.turn l = some d') :
    ∃ n stage, looks l ⟨d, .polling⟩ n = ⟨d', stage⟩ ∧ (d'.ended = false → stage = .polling) := by
  cases Dispatcher.turns_of_turn h with
  | @deliver e rest hqueue hopen =>
    refine ⟨1, .polling, ?_, fun _ => rfl⟩
    simp [looks, run, act, next, hopen, hqueue]
  | close hqueue hopen hwhy =>
    cases hsenders : d.hasSenders with
    | false =>
      refine ⟨2, .leaving, ?_, nofun⟩
      simp [looks, run, act, next, hopen, hqueue, hsenders]
    | true =>
      have hsignal : d.signal ≠ .quiet := by simpa [hsenders] using hwhy
      refine ⟨4, .leaving, ?_, nofun⟩
      simp [looks, run, act, next, hopen, hqueue, hsenders, hsignal]

/-- Turns until the dispatcher waits or has ended are looks with nothing in between. -/
theorem exists_looks_of_settle (l : Listeners) (d : Dispatcher) :
    ∃ n, (looks l ⟨d, .polling⟩ n).dispatcher = d.settle l := by
  have hgo (turns : Nat) (d : Dispatcher) :
      ∃ n, (looks l ⟨d, .polling⟩ n).dispatcher = Dispatcher.settle.go l turns d := by
    induction turns generalizing d with
    | zero => exact ⟨0, rfl⟩
    | succ turns ih =>
      rw [Dispatcher.settle.go]
      cases hturn : d.turn l with
      | none => exact ⟨0, rfl⟩
      | some d' =>
        obtain ⟨n, stage, hn, hstage⟩ := exists_looks_of_turn hturn
        cases hended : d'.ended with
        | true =>
          have hlast : Dispatcher.settle.go l turns d' = d' := by
            cases turns <;> simp [Dispatcher.settle.go, Dispatcher.turn, hended]
          exact ⟨n, by simp only [hn, hlast]⟩
        | false =>
          obtain ⟨m, hm⟩ := ih d'
          refine ⟨n + m, ?_⟩
          rw [looks_add, hn, hstage hended]
          exact hm
  exact hgo _ d

/-! ## The whole run -/

/-- Where the listeners are told one event after the other, each of them is called once for each. -/
theorem callsTo_of_flatMap {d : Dispatcher} {id : Nat} (hlisteners : l.registered.Nodup)
    (hid : id ∈ l.registered) (h : d.deliveries = d.broadcast.flatMap l.notify) :
    d.callsTo id = d.broadcast.map (·.callback) := by
  have honce : l.registered.filter (· == id) = [id] := by
    rw [List.filter_beq, List.count_eq_one_of_mem hlisteners hid, List.replicate_one]
  rw [Dispatcher.callsTo, h, List.filter_flatMap, List.map_flatMap]
  simp only [Dispatcher.callsTo_notify honce]
  exact List.map_eq_flatMap.symm

/-- What a dispatcher has done that has ended, having been told to stop when the events `sent` had been
sent and before `others` were: what a listener was told, what a subscriber finds, and that nothing more
is taken. -/
structure Ended (l : Listeners) (sent others : List Event) (d : Dispatcher) : Prop where
  /-- All of the first and some of the others were broadcast, in the order in which they were sent. -/
  broadcast : ∃ accepted, accepted.Sublist others ∧ d.broadcast = sent ++ accepted
  /-- The listeners were told one event after the other. -/
  deliveries : d.deliveries = d.broadcast.flatMap l.notify
  /-- Each of them was called once for each event. -/
  calls : ∀ id ∈ l.registered, d.callsTo id = d.broadcast.map (·.callback)
  /-- A subscriber who has read nothing has lost the events over the capacity. -/
  lost : (d.broadcast.foldl Backlog.push ⟨0, []⟩).lost = d.broadcast.length - broadcastCapacity
  /-- The subscriber finds the last ones. -/
  kept : (d.broadcast.foldl Backlog.push ⟨0, []⟩).kept <:+ d.broadcast ∧
    (d.broadcast.foldl Backlog.push ⟨0, []⟩).kept.length = min d.broadcast.length broadcastCapacity
  refuses : ∀ e, d.send e = (false, d)

theorem Parting.ended (h : Parting l first sent p) (hlisteners : l.registered.Nodup)
    (hended : p.dispatcher.ended = true) : Ended l first sent p.dispatcher := by
  have hbroadcast : ∃ accepted, accepted.Sublist sent ∧ p.dispatcher.broadcast = first ++ accepted := by
    obtain ⟨accepted, haccepted, horder⟩ := h.inOrder
    obtain ⟨whole, hwhole⟩ := h.whole (h.left hended)
    rw [← hwhole, List.append_assoc] at horder
    refine ⟨whole, List.Sublist.trans ?_ haccepted, hwhole.symm⟩
    rw [← List.append_cancel_left horder]
    exact List.sublist_append_left ..
  refine ⟨hbroadcast, h.delivered, fun id hid => callsTo_of_flatMap hlisteners hid h.delivered, ?_,
    ⟨?_, ?_⟩, ?_⟩
  · rw [Backlog.foldl_push, Backlog.lost_of]
  · rw [Backlog.foldl_push]
    exact Backlog.kept_suffix_of _
  · rw [Backlog.foldl_push, Backlog.length_kept_of]
  · intro e
    rw [Dispatcher.send, if_pos hended]

/-- **Main theorem.** However the dispatcher is told to stop, and whatever happens before that and
after it, it comes to its end, and at its end every listener was called once for each event that was
sent before the stop, in the order of the queue, a subscriber who reads the broadcast channel then finds
the last events and the number of those before them, and no event is taken any more. Of the events sent
after the stop some may have been delivered behind the others. -/
theorem run_of_stop (l : Listeners) (before after : List DispatchAct) (cause : StopCause)
    (hlisteners : l.registered.Nodup) (hbefore : ∀ a ∈ before, a.isStop = false) :
    let p := run l start (before ++ .stop cause :: after)
    (∃ n, (looks l p n).dispatcher.ended = true) ∧
    (p.dispatcher.ended = true →
      Ended l (before.filterMap (·.sent?)) (after.filterMap (·.sent?)) p.dispatcher) := by
  intro p
  have hparting : Parting l (before.filterMap (·.sent?)) (after.filterMap (·.sent?)) p := by
    have hattending := (Attending.start l).run hbefore
    have hrun : p = run l (act l (run l start before) (.stop cause)) after := by
      rw [← run_cons, ← run_append]
    rw [hrun]
    exact (hattending.told cause).run
  exact ⟨⟨_, exists_ended l hparting.stops (Nat.le_refl _)⟩, hparting.ended hlisteners⟩

/-- Two listeners are told of two events, although the dispatcher is told to stop before it has begun. -/
theorem run_of_stop_twoEvents :
    let l : Listeners := ⟨2, [0, 1]⟩
    let acts : List DispatchAct :=
      [.send (.connected default), .send (.disconnected default), .stop .raised]
    let d := (run l start (acts ++ List.replicate 6 (.goOn false))).dispatcher
    d.ended = true ∧
      d.callsTo 1 = [.deviceConnected default, .deviceDisconnected default] ∧
      d.send (.connected default) = (false, d) := by
  intro l acts d
  have hmain := run_of_stop l [.send (.connected default), .send (.disconnected default)]
    (List.replicate 6 (.goOn false)) .raised (by decide) (by decide)
  have hended := hmain.2 rfl
  exact ⟨rfl, hended.calls 1 (by decide), hended.refuses _⟩

end Dispatching

end DebugBridge
