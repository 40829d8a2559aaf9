import DebugBridge.Bytes
import DebugBridge.Error

/-!
# Incoming bytes

What a connection will receive is known beforehand as a `Stream`: the bytes that are there, those that
arrive later in chunks, and how it ends: the other side closes, or stays silent for ever. A `Read`
takes bytes from a stream and either has a value, or fails, or waits without end.

A read of an exact number of bytes that are not there loses the bytes that are.

Results:
* `takeExact_bytes`, a read takes the front of the bytes and leaves the rest, however they are cut into
  chunks;
* `flatten_reads`, reads of whatever length join to the bytes;
* `exists_reads_iff`, the lists of reads of at most `n` bytes are the lists of non-empty byte strings
  of at most `n` bytes;
* `Read.upTo_run`, a read of at most `n` bytes is the first of them.
-/

namespace DebugBridge

/-- What comes after the last byte. -/
inductive Ending
  /-- The other side closes the connection. -/
  | closed
  /-- Nothing more, without end. -/
  | silent
  deriving Repr, DecidableEq, Inhabited

/-- The bytes that a connection receives. -/
structure Stream where
  /-- Bytes that have arrived. -/
  ready : Bytes
  /-- Chunks that arrive one by one, each when nothing is ready. -/
  later : List Bytes
  /-- What comes after them. -/
  ending : Ending
  deriving Repr, DecidableEq, Inhabited

/-- Why a read has no value. -/
inductive Stall
  /-- The bytes have not come, and may never come. -/
  | waiting
  | failed (e : Error)
  deriving Repr, DecidableEq

/-- A read from a stream. -/
abbrev Read := ExceptT Stall (StateM Stream)

/-- One step of a computation, and what follows it. -/
theorem stateM_bind {σ α β : Type} (x : StateM σ α) (f : α → StateM σ β) (s : σ) :
    (x >>= f) s = f (x s).1 (x s).2 := rfl

/-- One step of a computation that may fail, and what follows it. -/
theorem run_bind {ε σ α β : Type} (x : ExceptT ε (StateM σ) α) (f : α → ExceptT ε (StateM σ) β)
    (s : σ) :
    (x >>= f).run s =
      match x.run s with
      | (.ok a, s') => (f a).run s'
      | (.error e, s') => (.error e, s') := by
  rcases hx : x.run s with ⟨r, s'⟩
  show (match x.run s with
    | (r, s') => (match r with
      | .ok a => (f a).run
      | .error e => pure (.error e) : StateM σ (Except ε β)) s') = _
  rw [hx]
  cases r <;> rfl

theorem run_bind_ok {ε σ α β : Type} {x : ExceptT ε (StateM σ) α} {s s' : σ} {a : α}
    (h : x.run s = (.ok a, s')) (f : α → ExceptT ε (StateM σ) β) :
    (x >>= f).run s = (f a).run s' := by
  rw [run_bind, h]

/-- A computation whose failure is handled. -/
theorem run_tryCatch {ε σ α : Type} (x : ExceptT ε (StateM σ) α)
    (handle : ε → ExceptT ε (StateM σ) α) (s : σ) :
    (tryCatch x handle).run s =
      match x.run s with
      | (.ok a, s') => (.ok a, s')
      | (.error e, s') => (handle e).run s' := by
  rcases hx : x.run s with ⟨r, s'⟩
  show (match x.run s with
    | (r, s') => (match r with
      | .ok a => pure (.ok a)
      | .error e => (handle e).run : StateM σ (Except ε α)) s') = _
  rw [hx]
  cases r <;> rfl

namespace Stream

/-- Bytes that have all arrived. -/
def ofBytes (b : Bytes) (ending : Ending) : Stream := ⟨b, [], ending⟩

/-- All bytes still to be read. -/
def bytes (s : Stream) : Bytes := s.ready ++ s.later.flatten

/-- The number of bytes still to be read. -/
def size (s : Stream) : Nat := s.bytes.length

/-- The same stream after its last byte. -/
def exhausted (s : Stream) : Stream := { s with ready := [], later := [] }

/-- More bytes, which arrive at once, and a new ending. -/
def extend (s : Stream) (b : Bytes) (ending : Ending) : Stream :=
  match s.later with
  | [] => ⟨s.ready ++ b, [], ending⟩
  | later => ⟨s.ready, later ++ [b], ending⟩

/-- Cuts `n` bytes off the front of `ready` and the chunks after it. -/
def takeExact (n : Nat) (ready : Bytes) : List Bytes → Option (Bytes × Bytes × List Bytes)
  | [] =>
    let front := ready.take n
    if front.length = n then some (front, ready.drop n, []) else none
  | chunk :: later =>
    let front := ready.take n
    if front.length = n then some (front, ready.drop n, chunk :: later)
    else (takeExact (n - front.length) chunk later).map fun (b, r, l) => (front ++ b, r, l)

/-- The first `n` bytes and the rest, if there are as many. -/
def take? (s : Stream) (n : Nat) : Option (Bytes × Stream) :=
  (takeExact n s.ready s.later).map fun (b, ready, later) => (b, { s with ready, later })

/-- The bytes that one read of at most `n` bytes returns, with nothing ready: the front of the next
chunk that is not empty. -/
def nextChunk (n : Nat) : List Bytes → Option (Bytes × Bytes × List Bytes)
  | [] => none
  | chunk :: later =>
    if chunk.isEmpty then nextChunk n later else some (chunk.take n, chunk.drop n, later)

/-- The byte strings that successive reads of at most `n` bytes return until the end. -/
def reads (s : Stream) (n : Nat) : List Bytes := (s.ready :: s.later).flatMap (Bytes.pieces n)

theorem takeExact_bytes {n : Nat} {ready b r : Bytes} {later l : List Bytes}
    (h : takeExact n ready later = some (b, r, l)) :
    b.length = n ∧ b ++ (r ++ l.flatten) = ready ++ later.flatten := by
  induction later generalizing n ready b r l with
  | nil =>
    simp only [takeExact] at h
    split at h
    · rename_i hl
      cases h
      exact ⟨hl, by simp⟩
    · cases h
  | cons chunk later ih =>
    simp only [takeExact] at h
    split at h
    · rename_i hl
      cases h
      exact ⟨hl, by simp [← List.append_assoc]⟩
    · rename_i hl
      obtain ⟨⟨b', r', l'⟩, h', he⟩ := Option.map_eq_some_iff.1 h
      cases he
      obtain ⟨hlen, hb⟩ := ih h'
      have hle : ready.length < n := by
        simp only [List.length_take] at hl
        omega
      have ht : ready.take n = ready := List.take_of_length_le (by omega)
      rw [ht] at hlen ⊢
      refine ⟨by rw [List.length_append, hlen]; omega, ?_⟩
      rw [List.append_assoc, hb]
      simp

theorem bytes_ofBytes (b : Bytes) (ending : Ending) : (ofBytes b ending).bytes = b := List.append_nil b

theorem bytes_extend (s : Stream) (b : Bytes) (ending : Ending) :
    (s.extend b ending).bytes = s.bytes ++ b := by
  obtain ⟨ready, later, old⟩ := s
  cases later <;> simp [extend, bytes]

theorem take?_ofBytes {n : Nat} (front rest : Bytes) (ending : Ending) (hn : front.length = n) :
    (ofBytes (front ++ rest) ending).take? n = some (front, ofBytes rest ending) := by
  subst hn
  simp [take?, ofBytes, takeExact]

@[simp] theorem reads_nil (n : Nat) (ending : Ending) : (Stream.mk [] [] ending).reads n = [] := by
  simp [reads]

theorem flatten_reads {n : Nat} (hn : 0 < n) (s : Stream) : (s.reads n).flatten = s.bytes := by
  have hlater : (s.later.flatMap (Bytes.pieces n)).flatten = s.later.flatten := by
    induction s.later with
    | nil => rfl
    | cons chunk later ih =>
      rw [List.flatMap_cons, List.flatten_append, ih, Bytes.flatten_pieces hn, List.flatten_cons]
  rw [reads, List.flatMap_cons, List.flatten_append, hlater, Bytes.flatten_pieces hn, bytes]

/-- A chunk without bytes is not read. -/
theorem reads_append_nil (n : Nat) (ready : Bytes) (chunks : List Bytes) (ending : Ending) :
    (Stream.mk ready (chunks ++ [[]]) ending).reads n = (Stream.mk ready chunks ending).reads n := by
  simp [reads]

theorem reads_of_chunks {n : Nat} {chunks : List Bytes}
    (hcut : ∀ c ∈ chunks, c ≠ [] ∧ c.length ≤ n) (ending : Ending) :
    (Stream.mk [] chunks ending).reads n = chunks := by
  rw [reads, List.flatMap_cons, Bytes.pieces_nil, List.nil_append]
  induction chunks with
  | nil => rfl
  | cons c chunks ih =>
    obtain ⟨hc, hlen⟩ := hcut c List.mem_cons_self
    rw [List.flatMap_cons, Bytes.pieces_of_length_le hc hlen,
      ih fun c hc => hcut c (List.mem_cons_of_mem _ hc)]
    rfl

/-- The reads of at most `n` bytes, over all streams, are the lists of non-empty byte strings of at
most `n` bytes. -/
theorem exists_reads_iff {n : Nat} (hn : 0 < n) (ending : Ending) (chunks : List Bytes) :
    (∃ s : Stream, s.ending = ending ∧ s.reads n = chunks) ↔
      ∀ c ∈ chunks, c ≠ [] ∧ c.length ≤ n := by
  constructor
  · rintro ⟨s, -, rfl⟩ c hc
    obtain ⟨b, -, hc⟩ := List.mem_flatMap.1 hc
    exact Bytes.mem_pieces hn hc
  · intro hcut
    exact ⟨⟨[], chunks, ending⟩, rfl, reads_of_chunks hcut ending⟩

theorem nextChunk_reads {n : Nat} (hn : 0 < n) (later : List Bytes) (ending : Ending) :
    (match nextChunk n later with
      | none => []
      | some (b, ready, rest) => b :: (Stream.mk ready rest ending).reads n) =
      (Stream.mk [] later ending).reads n := by
  induction later with
  | nil => simp [nextChunk]
  | cons chunk later ih =>
    rw [nextChunk]
    by_cases hc : chunk = []
    · subst hc
      simpa [reads] using ih
    · simp [hc, reads, Bytes.pieces_of_ne_nil hn hc]

theorem size_take? {s s' : Stream} {n : Nat} {b : Bytes} (h : s.take? n = some (b, s')) :
    b.length = n ∧ s'.size + n = s.size := by
  obtain ⟨⟨b', r, l⟩, ht, he⟩ := Option.map_eq_some_iff.1 h
  cases he
  obtain ⟨hlen, hb⟩ := takeExact_bytes ht
  refine ⟨hlen, ?_⟩
  have := congrArg List.length hb
  simp only [size, bytes, List.length_append] at this ⊢
  omega

end Stream

namespace Read

/-- Fails. -/
def fail (e : Error) : Read α := throw (.failed e)

/-- Reads exactly `n` bytes. -/
def exactly (n : Nat) : Read Bytes := fun s =>
  match s.take? n with
  | some (b, s') => (.ok b, s')
  | none =>
    match s.ending with
    | .closed =>
      (.error (.failed (.protocol s!"stream ended after fewer than {n} bytes")), s.exhausted)
    | .silent => (.error .waiting, s.exhausted)

theorem exactly_of_take? {n : Nat} {s s' : Stream} {b : Bytes} (h : s.take? n = some (b, s')) :
    (exactly n).run s = (.ok b, s') := by
  simp only [exactly, ExceptT.run, h]

theorem exactly_ofBytes {n : Nat} (front rest : Bytes) (ending : Ending) (hn : front.length = n) :
    (exactly n).run (.ofBytes (front ++ rest) ending) = (.ok front, .ofBytes rest ending) :=
  exactly_of_take? (Stream.take?_ofBytes front rest ending hn)

theorem size_exactly {n : Nat} {s s' : Stream} {b : Bytes}
    (h : (exactly n).run s = (.ok b, s')) : b.length = n ∧ s'.size + n = s.size := by
  simp only [exactly, ExceptT.run] at h
  split at h
  · rename_i ht
    cases h
    exact Stream.size_take? ht
  · split at h <;> cases h

/-- Reads what is there, at most `n` bytes; nothing means that the other side has closed. -/
def upTo (n : Nat) : Read Bytes := fun s =>
  if ! s.ready.isEmpty then (.ok (s.ready.take n), { s with ready := s.ready.drop n })
  else match Stream.nextChunk n s.later with
    | some (b, ready, later) => (.ok b, { s with ready, later })
    | none =>
      match s.ending with
      | .closed => (.ok [], s.exhausted)
      | .silent => (.error .waiting, s.exhausted)

/-- A read of at most `n` bytes returns the first of the `reads` and leaves the others. With none left
it tells that the other side has closed, or waits. -/
theorem upTo_run {n : Nat} (hn : 0 < n) (s : Stream) :
    match s.reads n with
    | c :: chunks =>
      ∃ s', (upTo n).run s = (.ok c, s') ∧ s'.reads n = chunks ∧ s'.ending = s.ending
    | [] => (upTo n).run s =
        (match s.ending with | .closed => .ok [] | .silent => .error .waiting, s.exhausted) := by
  obtain ⟨ready, later, ending⟩ := s
  by_cases hready : ready = []
  · subst hready
    rw [← Stream.nextChunk_reads hn]
    simp only [upTo, ExceptT.run, List.isEmpty_nil, Bool.not_true, Bool.false_eq_true, if_false]
    cases Stream.nextChunk n later with
    | none => cases ending <;> rfl
    | some next => exact ⟨_, rfl, rfl, rfl⟩
  · have hreads : (Stream.mk ready later ending).reads n =
        ready.take n :: (Stream.mk (ready.drop n) later ending).reads n := by
      simp [Stream.reads, Bytes.pieces_of_ne_nil hn hready]
    rw [hreads]
    refine ⟨⟨ready.drop n, later, ending⟩, ?_, rfl, rfl⟩
    simp [upTo, ExceptT.run, hready]

end Read

end DebugBridge
