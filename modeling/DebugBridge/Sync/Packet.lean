import DebugBridge.Sync.Entry
import DebugBridge.Text.Quoted
import DebugBridge.Text.Utf8
import DebugBridge.Wire.Stream

/-!
# Packets of the sync service

After the switch to the sync service both sides send packets: four letters, and a word whose meaning
depends on them. Contents of files travel in data packets of at most 65536 bytes.

Results: `isA_packet`, `wordAt_packet`, what is read off the front of a packet.
-/

namespace DebugBridge.Sync

/-- The most bytes in a data packet. -/
def dataLimit : Nat := 65536

/-- The longest remote path, in bytes. -/
def pathLimit : Nat := 1024

/-- The permissions of pushed files. -/
def pushedMode : UInt32 := 0o644

/-- The kind of a packet. -/
inductive PacketId
  | send
  | recv
  | stat
  | list
  | dent
  | data
  | done
  | okay
  | fail
  | quit
  deriving Repr, DecidableEq, Inhabited

/-- The letters of a kind of packet. -/
def PacketId.letters : PacketId → Bytes
  | .send => Bytes.ofString "SEND"
  | .recv => Bytes.ofString "RECV"
  | .stat => Bytes.ofString "STAT"
  | .list => Bytes.ofString "LIST"
  | .dent => Bytes.ofString "DENT"
  | .data => Bytes.ofString "DATA"
  | .done => Bytes.ofString "DONE"
  | .okay => Bytes.ofString "OKAY"
  | .fail => Bytes.ofString "FAIL"
  | .quit => Bytes.ofString "QUIT"

/-- A packet without a body. -/
def packet (id : PacketId) (arg : UInt32) : Bytes := id.letters ++ Bytes.ofWord arg

/-- A packet with a body, whose length is the word. -/
def packetWith (id : PacketId) (body : Bytes) : Bytes :=
  packet id (UInt32.ofNat body.length) ++ body

/-- A request about a path. -/
def pathRequest (id : PacketId) (path : String) : Bytes := packetWith id (Bytes.ofString path)

/-- Does a packet begin with the letters of a kind? -/
def isA (id : PacketId) (header : Bytes) : Bool := header.take 4 == id.letters

/-- The `i`-th word after the letters of a packet, counted from zero. -/
def wordAt (header : Bytes) (i : Nat) : UInt32 := Bytes.word (header.drop (4 + 4 * i))

theorem length_letters (id : PacketId) : id.letters.length = 4 := by
  cases id <;> rfl

theorem letters_inj : ∀ {id id' : PacketId}, id.letters = id'.letters ↔ id = id' := by
  intro id id'
  cases id <;> cases id' <;> decide

theorem toNat_ofNat_length {b : Bytes} (h : b.length ≤ dataLimit) :
    (UInt32.ofNat b.length).toNat = b.length := by
  have hlimit : dataLimit < 2 ^ 32 := by decide
  rw [UInt32.toNat_ofNat', Nat.mod_eq_of_lt (by omega)]

theorem length_packet (id : PacketId) (arg : UInt32) : (packet id arg).length = 8 := by
  rw [packet, List.length_append, length_letters, Bytes.length_ofWord]

theorem take_packet (id : PacketId) (arg : UInt32) (more : Bytes) :
    (packet id arg ++ more).take 8 = packet id arg :=
  List.take_left' (length_packet id arg)

theorem drop_packet (id : PacketId) (arg : UInt32) (more : Bytes) :
    (packet id arg ++ more).drop 8 = more :=
  List.drop_left' (length_packet id arg)

theorem isA_letters (id id' : PacketId) (more : Bytes) :
    isA id' (id.letters ++ more) = decide (id = id') := by
  rw [isA, List.take_left' (length_letters id), Bool.eq_iff_iff, beq_iff_eq, decide_eq_true_iff,
    letters_inj]

/-- The words after the letters. -/
theorem wordAt_letters (id : PacketId) (words : List UInt32) (more : Bytes) (i : Nat)
    (hi : i < words.length) :
    wordAt (id.letters ++ (words.flatMap Bytes.ofWord ++ more)) i = words[i] := by
  rw [wordAt, ← List.drop_drop, List.drop_left' (length_letters id)]
  induction words generalizing i with
  | nil => exact absurd hi (Nat.not_lt_zero i)
  | cons w words ih =>
    rw [List.flatMap_cons, List.append_assoc]
    cases i with
    | zero => exact Bytes.word_ofWord w _
    | succ i =>
      rw [Nat.mul_succ, Nat.add_comm, ← List.drop_drop, List.drop_left' (Bytes.length_ofWord w)]
      exact ih i (Nat.lt_of_succ_lt_succ hi)

@[simp] theorem isA_packet (id id' : PacketId) (arg : UInt32) (more : Bytes) :
    isA id' (packet id arg ++ more) = decide (id = id') := by
  rw [packet, List.append_assoc, isA_letters]

@[simp] theorem wordAt_packet (id : PacketId) (arg : UInt32) (more : Bytes) :
    wordAt (packet id arg ++ more) 0 = arg := by
  have := wordAt_letters id [arg] more 0 Nat.zero_lt_one
  simpa [packet] using this

/-- The words after the letters of a packet, and after its own word. -/
theorem wordAt_packet_succ (id : PacketId) (arg : UInt32) (words : List UInt32) (more : Bytes)
    (i : Nat) (hi : i < words.length) :
    wordAt (packet id arg ++ (words.flatMap Bytes.ofWord ++ more)) (i + 1) = words[i] := by
  have := wordAt_letters id (arg :: words) more (i + 1) (Nat.succ_lt_succ hi)
  simpa [packet] using this

@[simp] theorem isA_packet_alone (id id' : PacketId) (arg : UInt32) :
    isA id' (packet id arg) = decide (id = id') := by
  simpa using isA_packet id id' arg []

@[simp] theorem wordAt_packet_alone (id : PacketId) (arg : UInt32) :
    wordAt (packet id arg) 0 = arg := by
  simpa using wordAt_packet id arg []

/-- The letters of a packet as they are shown in messages. -/
def shownLetters (header : Bytes) : String := Text.quoted (Utf8.lossy (header.take 4))

/-- A message from the daemon of an announced length. -/
def failMessage (size : UInt32) : Read String := do
  let n := size.toNat
  if dataLimit < n then
    Read.fail (.protocol s!"FAIL message of {n} bytes exceeds the {dataLimit} byte limit")
  else
    let body ← Read.exactly n
    pure (Utf8.lossy body)

end DebugBridge.Sync
