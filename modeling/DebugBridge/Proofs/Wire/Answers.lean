import DebugBridge.Proofs.Wire.Framing
import DebugBridge.Wire.Connection

/-!
# What the answer to a request can be

Whatever bytes are received, to one who waits for the answer to a request they are consent, a refusal with
its message, bytes that are no answer, or an answer that breaks off (`Answered`). Each of these stands for
what the request comes to: a value, the daemon's message, an error of the protocol, or, if the daemon is
silent in the middle of an answer, the end of the time that it was given.

Results:
* `exists_answered`, `Answered.unique`: every byte string is an answer, and stands for one outcome;
* `settled_status`: which is what the request comes to;
* `answered_rejected_iff`, `answered_protocol_iff`, `answered_timeout_iff`: the answers by their outcome.
-/

namespace DebugBridge

variable {b : Bytes} {ending : Ending} {r : Except Error Unit} {s : Stream}

/-- A refusal with its message. -/
def IsRefusal (b : Bytes) : Prop :=
  ∃ framed payload more, IsFrame framed payload ∧ b = failToken ++ (framed ++ more)

/-- Bytes that are no answer, and the complaint about them. -/
inductive BadAnswer : Bytes → String → Prop
  | token {token : Bytes} (hlength : token.length = 4) (hokay : token ≠ okayToken)
    (hfail : token ≠ failToken) (more : Bytes) :
    BadAnswer (token ++ more) ("unexpected status token " ++ Text.quoted (Utf8.lossy token))
  /-- The message of a refusal has no length. -/
  | length {digits : Bytes} (hlength : digits.length = 4)
    (hdigits : ∀ n ≤ longestRequest, Bytes.capitals digits ≠ lengthDigits n) (more : Bytes) :
    BadAnswer (failToken ++ (digits ++ more))
      ("invalid length prefix " ++ Text.quoted (Utf8.lossy digits))

/-- An answer that breaks off: of so many bytes that are read at once, not all are there. -/
inductive CutAnswer : Bytes → Nat → Prop
  | token {b : Bytes} (h : b.length < 4) : CutAnswer b 4
  /-- The length of a refusal's message is not complete. -/
  | length {b : Bytes} (h : b.length < 4) : CutAnswer (failToken ++ b) 4
  /-- The message of a refusal is not complete. -/
  | message {digits body : Bytes} {n : Nat} (hn : n ≤ longestRequest)
    (hdigits : Bytes.capitals digits = lengthDigits n) (hcut : body.length < n) :
    CutAnswer (failToken ++ (digits ++ body)) n

/-- What becomes of a request whose answer breaks off within so many bytes. -/
def Ending.cutRequest : Ending → Nat → Error
  | .closed, n => .protocol s!"stream ended after fewer than {n} bytes"
  | .silent, _ => .timeout "waiting for adb status"

/-- How the answer to a request can go, and what the request comes to; `ending` comes after the last
byte. -/
inductive Answered (ending : Ending) : Bytes → Except Error Unit → Prop
  | consent (more : Bytes) : Answered ending (okayToken ++ more) (.ok ())
  | refusal {framed payload : Bytes} (h : IsFrame framed payload) (more : Bytes) :
    Answered ending (failToken ++ (framed ++ more)) (.error (.rejected (Utf8.lossy payload)))
  | bad {b : Bytes} {detail : String} (h : BadAnswer b detail) :
    Answered ending b (.error (.protocol detail))
  | cut {b : Bytes} {n : Nat} (h : CutAnswer b n) : Answered ending b (.error (ending.cutRequest n))

/-- What a request comes to once its answer has been read, or could not be. -/
def settled : Except Stall Status → Except Error Unit
  | .ok .okay => .ok ()
  | .ok (.fail message) => .error (.rejected message)
  | .error .waiting => .error (.timeout "waiting for adb status")
  | .error (.failed e) => .error e

theorem settled_shortfall (n : Nat) :
    settled (.error (ending.shortfall n)) = .error (ending.cutRequest n) := by
  cases ending <;> rfl

/-- Bytes that are there in their number stand in front of others. -/
theorem exists_front {n : Nat} (h : n ≤ b.length) :
    ∃ front rest, front.length = n ∧ b = front ++ rest :=
  ⟨b.take n, b.drop n, List.length_take_of_le h, (List.take_append_drop n b).symm⟩

/-- What comes after the token of a refusal. -/
theorem exists_answered_fail (ending : Ending) (b : Bytes) : ∃ r, Answered ending (failToken ++ b) r := by
  by_cases hshort : b.length < 4
  · exact ⟨_, .cut (.length hshort)⟩
  obtain ⟨digits, body, hlength, rfl⟩ := exists_front (Nat.not_lt.1 hshort)
  by_cases hdigits : ∃ n ≤ longestRequest, Bytes.capitals digits = lengthDigits n
  · obtain ⟨n, hn, hdigits⟩ := hdigits
    by_cases hcut : body.length < n
    · exact ⟨_, .cut (.message hn hdigits hcut)⟩
    obtain ⟨payload, more, rfl, rfl⟩ := exists_front (Nat.not_lt.1 hcut)
    have hframe : IsFrame (digits ++ payload) payload := ⟨hn, digits, rfl, hdigits⟩
    have hrefusal : Answered ending _ _ := .refusal hframe more
    rw [List.append_assoc] at hrefusal
    exact ⟨_, hrefusal⟩
  · exact ⟨_, .bad (.length hlength (fun n hn heq => hdigits ⟨n, hn, heq⟩) body)⟩

/-- Whatever is received, it is an answer of one of these kinds. -/
theorem exists_answered (ending : Ending) (b : Bytes) : ∃ r, Answered ending b r := by
  by_cases hshort : b.length < 4
  · exact ⟨_, .cut (.token hshort)⟩
  obtain ⟨token, more, hlength, rfl⟩ := exists_front (Nat.not_lt.1 hshort)
  by_cases hokay : token = okayToken
  · subst hokay
    exact ⟨_, .consent more⟩
  by_cases hfail : token = failToken
  · subst hfail
    exact exists_answered_fail ending more
  · exact ⟨_, .bad (.token hlength hokay hfail more)⟩

/-- A computation that fails before what follows it. -/
theorem fst_run_bind_of_error {ε σ α β : Type} {x : ExceptT ε (StateM σ) α} {s : σ} {e : ε}
    (h : (x.run s).1 = .error e) (f : α → ExceptT ε (StateM σ) β) :
    ((x >>= f).run s).1 = .error e := by
  rcases hx : x.run s with ⟨r, s'⟩
  rw [hx] at h
  cases h
  rw [run_bind, hx]

theorem lengthPrefix?_eq_error {digits : Bytes}
    (h : ∀ n ≤ longestRequest, Bytes.capitals digits ≠ lengthDigits n) :
    lengthPrefix? digits =
      .error (.protocol ("invalid length prefix " ++ Text.quoted (Utf8.lossy digits))) := by
  cases hvalue : lengthPrefix? digits with
  | ok n =>
    obtain ⟨hn, hdigits⟩ := lengthPrefix?_eq_ok_iff.1 hvalue
    exact absurd hdigits (h n hn)
  | error e =>
    unfold lengthPrefix? at hvalue
    dsimp only at hvalue
    split at hvalue <;> cases hvalue
    rfl

namespace Read

/-- Bytes at the front that are read at once. -/
theorem exactly_of_front {n : Nat} {front rest : Bytes} (h : s.bytes = front ++ rest)
    (hn : front.length = n) :
    ∃ s', (exactly n).run s = (.ok front, s') ∧ s'.bytes = rest ∧ s'.ending = s.ending :=
  hn ▸ gives_exactly_append h

theorem fst_exactly_of_lt {n : Nat} (h : s.bytes.length < n) :
    ((exactly n).run s).1 = .error (s.ending.shortfall n) := by
  rw [exactly_of_lt h]

/-- After the token of a refusal, its message is read. -/
theorem fst_status_of_fail {e : Stall} {rest : Bytes} (hbytes : s.bytes = failToken ++ rest)
    (h : ∀ s', s'.bytes = rest → s'.ending = s.ending → (frame.run s').1 = .error e) :
    (status.run s).1 = .error e := by
  have hlength : failToken.length = 4 := rfl
  obtain ⟨s₁, htoken, hbytes₁, hending₁⟩ := exactly_of_front hbytes hlength
  rw [status, run_bind_ok htoken, if_neg (by decide), if_pos rfl]
  exact fst_run_bind_of_error (h s₁ hbytes₁ hending₁) _

theorem status_of_bad {detail : String} (h : BadAnswer s.bytes detail) :
    (status.run s).1 = .error (.failed (.protocol detail)) := by
  generalize hbytes : s.bytes = b at h
  cases h with
  | token hlength hokay hfail more =>
    obtain ⟨s₁, htoken, -, -⟩ := exactly_of_front hbytes hlength
    rw [status, run_bind_ok htoken, if_neg hokay, if_neg hfail]
    rfl
  | length hlength hdigits more =>
    refine fst_status_of_fail hbytes fun s₁ hbytes₁ _ => ?_
    obtain ⟨s₂, hfour, -, -⟩ := exactly_of_front hbytes₁ hlength
    refine fst_run_bind_of_error ?_ _
    rw [length, run_bind_ok hfour, lengthPrefix?_eq_error hdigits]
    rfl

theorem status_of_cut {n : Nat} (h : CutAnswer s.bytes n) :
    (status.run s).1 = .error (s.ending.shortfall n) := by
  generalize hbytes : s.bytes = b at h
  cases h with
  | token hshort =>
    subst hbytes
    exact fst_run_bind_of_error (fst_exactly_of_lt hshort) _
  | length hshort =>
    refine fst_status_of_fail hbytes fun s₁ hbytes₁ hending₁ => ?_
    rw [← hending₁]
    subst hbytes₁
    exact fst_run_bind_of_error (fst_run_bind_of_error (fst_exactly_of_lt hshort) _) _
  | message hn hdigits hcut =>
    refine fst_status_of_fail hbytes fun s₁ hbytes₁ hending₁ => ?_
    obtain ⟨s₂, hlength, hbytes₂, hending₂⟩ := gives_length hn hdigits hbytes₁
    subst hbytes₂
    rw [frame, run_bind_ok hlength, fst_exactly_of_lt hcut, hending₂, hending₁]

end Read

/-- The request comes to that for which the answer stands. -/
theorem settled_status (h : Answered s.ending s.bytes r) : settled (Read.status.run s).1 = r := by
  generalize hbytes : s.bytes = b at h
  cases h with
  | consent more =>
    obtain ⟨s₁, hstatus, -, -⟩ := Read.gives_okay hbytes
    rw [hstatus]
    rfl
  | refusal hframe more =>
    obtain ⟨s₁, hstatus, -, -⟩ := Read.gives_fail hframe hbytes
    rw [hstatus]
    rfl
  | bad h =>
    subst hbytes
    rw [Read.status_of_bad h]
    rfl
  | cut h =>
    subst hbytes
    rw [Read.status_of_cut h, settled_shortfall]

/-- Answers that stand for an outcome stand for no other. -/
theorem Answered.unique {r' : Except Error Unit} (h : Answered ending b r) (h' : Answered ending b r') :
    r = r' := by
  have hbytes : (Stream.ofBytes b ending).bytes = b := Stream.bytes_ofBytes b ending
  have hone {r : Except Error Unit} (h : Answered ending b r) :
      settled (Read.status.run (.ofBytes b ending)).1 = r := settled_status (hbytes.symm ▸ h)
  exact (hone h).symm.trans (hone h')

/-! ## Answers by their outcome -/

theorem answered_rejected_iff :
    (∃ message, Answered ending b (.error (.rejected message))) ↔ IsRefusal b := by
  constructor
  · rintro ⟨message, h⟩
    generalize hr : (Except.error (Error.rejected message) : Except Error Unit) = r at h
    cases h with
    | consent => cases hr
    | refusal h more => exact ⟨_, _, more, h, rfl⟩
    | bad => cases hr
    | cut => cases ending <;> cases hr
  · rintro ⟨framed, payload, more, h, rfl⟩
    exact ⟨_, .refusal h more⟩

theorem answered_protocol_iff {detail : String} :
    Answered ending b (.error (.protocol detail)) ↔
      BadAnswer b detail ∨ ending = .closed ∧
        ∃ n, CutAnswer b n ∧ detail = s!"stream ended after fewer than {n} bytes" := by
  constructor
  · intro h
    generalize hr : (Except.error (Error.protocol detail) : Except Error Unit) = r at h
    cases h with
    | consent => cases hr
    | refusal => cases hr
    | bad h =>
      cases hr
      exact .inl h
    | cut h =>
      cases ending with
      | closed =>
        cases hr
        exact .inr ⟨rfl, _, h, rfl⟩
      | silent => cases hr
  · rintro (h | ⟨rfl, n, h, rfl⟩)
    · exact .bad h
    · exact .cut h

theorem answered_timeout_iff :
    Answered ending b (.error (.timeout "waiting for adb status")) ↔
      ending = .silent ∧ ∃ n, CutAnswer b n := by
  constructor
  · intro h
    generalize hr : (Except.error (Error.timeout "waiting for adb status") : Except Error Unit) = r at h
    cases h with
    | consent => cases hr
    | refusal => cases hr
    | bad => cases hr
    | cut h =>
      cases ending with
      | closed => cases hr
      | silent => exact ⟨rfl, _, h⟩
  · rintro ⟨rfl, n, h⟩
    exact .cut h

end DebugBridge
