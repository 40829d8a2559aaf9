import DebugBridge.Proofs.Sync.Opening
import DebugBridge.Proofs.Sync.Pushed
import DebugBridge.Proofs.Wire.Answers

/-!
# What comes of opening a session

A session is opened by two requests, and the second is made only if the first is granted. The first answer
that is no consent decides what comes of it (`Decides`): a refusal, whichever request it answers and whatever
it says, means that the service is not available, and every other failure stays what it is (`Opens`).

Results: `run_enter`, what comes of the two requests, from what is heard once they have been made.
-/

namespace DebugBridge

variable {b : Bytes} {ending : Ending} {r : Except Error Unit}

/-! ## Two answers -/

/-- The first of two answers that is no consent, or the second: what it stands for. -/
inductive Decides (ending : Ending) : Bytes → Except Error Unit → Prop
  | first {b : Bytes} {e : Error} (h : Answered ending b (.error e)) : Decides ending b (.error e)
  | second {b : Bytes} {r : Except Error Unit} (h : Answered ending b r) :
    Decides ending (okayToken ++ b) r

/-- What the second request comes to is decided by the second answer. -/
theorem exists_decides (ending : Ending) (b : Bytes) : ∃ r, Decides ending b r := by
  obtain ⟨_ | ⟨⟨⟩⟩, h⟩ := exists_answered ending b
  · exact ⟨_, .first h⟩
  · cases h with
    | consent more =>
      obtain ⟨r, h⟩ := exists_answered ending more
      exact ⟨r, .second h⟩

/-- The first answer has a property, or it is consent and the second has it. -/
def InAnswers (p : Bytes → Prop) (b : Bytes) : Prop := p b ∨ ∃ rest, b = okayToken ++ rest ∧ p rest

theorem decides_error_iff {e : Error} :
    Decides ending b (.error e) ↔ InAnswers (fun b => Answered ending b (.error e)) b := by
  constructor
  · rintro (h | h)
    · exact .inl h
    · exact .inr ⟨_, rfl, h⟩
  · rintro (h | ⟨rest, rfl, h⟩)
    · exact .first h
    · exact .second h

/-- After consent, the second answer decides. -/
theorem decides_second_iff : Decides ending (okayToken ++ b) r ↔ Answered ending b r := by
  refine ⟨fun h => ?_, .second⟩
  generalize hb : okayToken ++ b = whole at h
  cases h with
  | first h =>
    subst hb
    cases h.unique (.consent b)
  | second h => rwa [List.append_cancel_left hb]

theorem Decides.unique {r' : Except Error Unit} (h : Decides ending b r) (h' : Decides ending b r') :
    r = r' := by
  cases h with
  | first h =>
    cases h' with
    | first h' => exact h.unique h'
    | second h' => cases h.unique (.consent _)
  | second h => exact h.unique (decides_second_iff.1 h')

theorem Decides.eq_iff {r' : Except Error Unit} (h : Decides ending b r) :
    r = r' ↔ Decides ending b r' :=
  ⟨fun heq => heq ▸ h, h.unique⟩

theorem decides_ok_iff : Decides ending b (.ok ()) ↔ okayToken ++ okayToken <+: b := by
  constructor
  · rintro (h | h)
    cases h with
    | consent more => exact ⟨more, List.append_assoc _ _ _⟩
  · rintro ⟨more, rfl⟩
    rw [List.append_assoc]
    exact .second (.consent more)

theorem decides_rejected_iff :
    (∃ message, Decides ending b (.error (.rejected message))) ↔ InAnswers IsRefusal b := by
  constructor
  · rintro ⟨message, h⟩
    rcases decides_error_iff.1 h with hfirst | ⟨rest, rfl, hsecond⟩
    · exact .inl (answered_rejected_iff.1 ⟨message, hfirst⟩)
    · exact .inr ⟨rest, rfl, answered_rejected_iff.1 ⟨message, hsecond⟩⟩
  · rintro (h | ⟨rest, rfl, h⟩)
    · obtain ⟨message, h⟩ := answered_rejected_iff.2 h
      exact ⟨message, .first h⟩
    · obtain ⟨message, h⟩ := answered_rejected_iff.2 h
      exact ⟨message, .second h⟩

/-! ## What comes of the requests -/

theorem Stream.ending_extend (s : Stream) (b : Bytes) (ending : Ending) :
    (s.extend b ending).ending = ending := by
  obtain ⟨ready, later, old⟩ := s
  cases later <;> rfl

/-- The bytes of a request. -/
def requested (service : String) : Bytes :=
  lengthDigits (Bytes.ofString service).length ++ Bytes.ofString service

namespace Sync

variable {D S : Type} {serial service : String}

theorem encodeRequest_run (hshort : (Bytes.ofString service).length ≤ longestRequest) (w : Wire D S) :
    (liftM (encodeRequest service) : Call D S Bytes).run w = (.ok (requested service), w) := by
  rw [encodeRequest_of_le hshort]
  rfl

variable [Daemon D S]

/-- A request comes to what is read in answer to it. -/
theorem request_of_status (hshort : (Bytes.ofString service).length ≤ longestRequest) (w : Wire D S)
    {answer : Except Stall Status} {rest : Stream}
    (h : Read.status.run (feed w (requested service)).stream = (answer, rest)) :
    (Call.request service).run w =
      (settled answer, { feed w (requested service) with stream := rest }) := by
  rw [Call.request, run_bind_ok (encodeRequest_run hshort w), run_bind_ok (send_run w _), run_bind,
    Call.status, Call.within, Call.run_reading, h]
  rcases answer with (_ | e) | (_ | message) <;> rfl

theorem request_of_answered (hshort : (Bytes.ofString service).length ≤ longestRequest) (w : Wire D S)
    (h : Answered (feed w (requested service)).stream.ending (feed w (requested service)).stream.bytes r) :
    ∃ rest, (Call.request service).run w =
      (r, { feed w (requested service) with stream := rest }) := by
  rcases hstatus : Read.status.run (feed w (requested service)).stream with ⟨answer, rest⟩
  have hsettled := settled_status h
  rw [hstatus] at hsettled
  exact ⟨rest, hsettled ▸ request_of_status hshort w hstatus⟩

/-- After consent, what is received behind it is left. -/
theorem request_of_okay (hshort : (Bytes.ofString service).length ≤ longestRequest) (w : Wire D S)
    {more : Bytes} (hbytes : (feed w (requested service)).stream.bytes = okayToken ++ more) :
    ∃ rest, (Call.request service).run w =
      (.ok (), { feed w (requested service) with stream := rest }) ∧ rest.bytes = more := by
  obtain ⟨rest, hstatus, hmore, -⟩ := Read.gives_okay hbytes
  exact ⟨rest, request_of_status hshort w hstatus, hmore⟩

theorem bytes_feed (w : Wire D S) (b : Bytes) :
    (feed w b).stream.bytes = w.stream.bytes ++ (Daemon.receive w.daemon w.session b).answer :=
  Stream.bytes_extend _ _ _

/-- What has been read of a connection does not matter to what comes behind it. -/
theorem bytes_feed_of_rest {w : Wire D S} {rest : Stream} {lead : Bytes}
    (h : w.stream.bytes = lead ++ rest.bytes) (b : Bytes) :
    (feed w b).stream.bytes = lead ++ (feed { w with stream := rest } b).stream.bytes := by
  rw [bytes_feed, h, List.append_assoc]
  exact congrArg (lead ++ ·) (bytes_feed { w with stream := rest } b).symm

theorem ending_feed (w : Wire D S) (b : Bytes) :
    (feed w b).stream.ending = (Daemon.receive w.daemon w.session b).ending :=
  Stream.ending_extend _ _ _

/-- The connection once the requests have been made: the second is made if the first is granted. -/
def asked (w : Wire D S) (serial : String) : Wire D S :=
  let w₁ := feed w (requested (selection serial))
  if okayToken <+: w₁.stream.bytes then feed w₁ (requested "sync:") else w₁

/-- What comes of opening a session, from what the deciding answer stands for. A refusal means that the
service is not available; any other failure is unchanged. -/
inductive Opens (serial : String) : Except Error Unit → Except Error Unit → Prop
  | granted : Opens serial (.ok ()) (.ok ())
  | refused (message reason : String) :
    Opens serial (.error (.rejected message)) (.error (.syncUnavailable serial reason))
  | broken {e : Error} (h : e.isRejection = false) : Opens serial (.error e) (.error e)

namespace Opens

variable {serial : String} {result : Except Error Unit} (h : Opens serial r result)
include h

theorem ok_iff : result = .ok () ↔ r = .ok () := by
  cases h <;> simp

theorem unavailable_iff :
    (∃ reason, result = .error (.syncUnavailable serial reason)) ↔
      ∃ message, r = .error (.rejected message) := by
  cases h with
  | granted => simp
  | refused message reason => exact iff_of_true ⟨reason, rfl⟩ ⟨message, rfl⟩
  | broken h =>
    constructor
    · rintro ⟨reason, he⟩
      cases he
      cases h
    · rintro ⟨message, he⟩
      cases he
      cases h

theorem error_iff {e : Error} (he : e.isRejection = false) : result = .error e ↔ r = .error e := by
  cases h with
  | granted => simp
  | refused message reason =>
    constructor
    · rintro ⟨⟩
      cases he
    · rintro ⟨⟩
      cases he
  | broken _ => rfl

end Opens

/-- Every refusal to select a device is a rejection. -/
theorem isRejection_selectionError (serial message : String) :
    (selectionError serial message).isRejection = true := by
  unfold selectionError
  split_ifs <;> rfl

/-- What opening a session makes of what its requests come to. -/
def offered (serial : String) : Except Error Unit → Except Error Unit
  | .error e => .error (if e.isRejection then .syncUnavailable serial e.message else e)
  | .ok () => .ok ()

theorem enter_offered {w w' : Wire D S}
    (h : (do
      Call.select serial
      Call.request "sync:" : Call D S Unit).run w = (r, w')) :
    (enter serial).run w = (offered serial r, w') := by
  rw [enter, run_tryCatch, h]
  rcases r with e | _
  · show (if e.isRejection then throw (.syncUnavailable serial e.message) else throw e :
      Call D S Unit).run w' = _
    cases he : e.isRejection <;> simp only [offered, he, if_true, Bool.false_eq_true, if_false] <;> rfl
  · rfl

theorem enter_of_select_error {w w' : Wire D S} {e : Error}
    (h : (Call.select serial).run w = (.error e, w')) :
    (enter serial).run w = (offered serial (.error e), w') := by
  refine enter_offered ?_
  rw [run_bind, h]

theorem enter_of_select_ok {w w₁ w' : Wire D S} (h : (Call.select serial).run w = (.ok (), w₁))
    (h' : (Call.request "sync:").run w₁ = (r, w')) : (enter serial).run w = (offered serial r, w') := by
  refine enter_offered ?_
  rw [run_bind_ok h, h']

/-- The second answer decides. -/
theorem opens_offered (h : Answered ending b r) : Opens serial r (offered serial r) := by
  cases h with
  | consent => exact .granted
  | refusal => exact .refused _ _
  | bad => exact .broken rfl
  | cut => cases ending <;> exact .broken rfl

/-- A refusal to select a device says what the message tells of the device. -/
def selected (serial : String) : Error → Error
  | .rejected message => selectionError serial message
  | e => e

theorem select_of_request {w w' : Wire D S} {e : Error}
    (h : (Call.request (selection serial)).run w = (.error e, w')) :
    (Call.select serial).run w = (.error (selected serial e), w') := by
  have hrequest : (Call.request s!"host:transport:{serial}").run w = (.error e, w') := h
  rw [Call.select, Call.requestFor, run_tryCatch, hrequest]
  cases e <;> rfl

/-- The first answer decides. That it concerns the device does not hide that it is a refusal. -/
theorem opens_selected {e : Error} (h : Answered ending b (.error e)) :
    Opens serial (.error e) (offered serial (.error (selected serial e))) := by
  generalize hr : (Except.error e : Except Error Unit) = r at h
  cases h with
  | consent => cases hr
  | refusal =>
    cases hr
    rw [offered, selected, isRejection_selectionError, if_pos rfl]
    exact .refused _ _
  | bad =>
    cases hr
    exact .broken rfl
  | cut =>
    cases hr
    cases ending <;> exact .broken rfl

/-- **What comes of the two requests.** The deciding answer is the one in what is heard once they have been
made. -/
theorem run_enter (hshort : (Bytes.ofString (selection serial)).length ≤ longestRequest) (w : Wire D S)
    (h : Decides (asked w serial).stream.ending (asked w serial).stream.bytes r) :
    ∃ result rest, (enter serial).run w = (result, { asked w serial with stream := rest }) ∧
      Opens serial r result := by
  have hsync : (Bytes.ofString "sync:").length ≤ longestRequest := by decide
  rw [asked] at h ⊢
  dsimp only at h ⊢
  split_ifs at h ⊢ with hokay
  · obtain ⟨more, hmore⟩ := hokay
    obtain ⟨rest, hselect, hrest⟩ := request_of_okay hshort w hmore.symm
    -- What is left of the first answer stands in front of the second.
    have hbytes := bytes_feed_of_rest (hmore.symm.trans (by rw [hrest])) (requested "sync:")
    have hending : (feed (feed w (requested (selection serial))) (requested "sync:")).stream.ending =
        (feed { feed w (requested (selection serial)) with stream := rest }
          (requested "sync:")).stream.ending := by
      rw [ending_feed, ending_feed]
    rw [hbytes, hending, decides_second_iff] at h
    obtain ⟨last, hrequest⟩ := request_of_answered hsync _ h
    exact ⟨_, last, enter_of_select_ok (Call.requestFor_of_request serial hselect) hrequest,
      opens_offered h⟩
  -- Without consent the second request is not made.
  · generalize hbytes : (feed w (requested (selection serial))).stream.bytes = b at h
    cases h with
    | first h =>
      subst hbytes
      obtain ⟨rest, hrequest⟩ := request_of_answered hshort w h
      exact ⟨_, rest, enter_of_select_error (select_of_request hrequest), opens_selected h⟩
    | second h =>
      rw [hbytes] at hokay
      exact absurd (List.prefix_append _ _) hokay

end Sync

end DebugBridge
