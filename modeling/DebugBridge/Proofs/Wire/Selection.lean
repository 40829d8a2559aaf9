import DebugBridge.Proofs.Text.Pieces
import DebugBridge.Proofs.Text.Utf8
import DebugBridge.Proofs.Wire.Framing
import DebugBridge.Shell.Command
import DebugBridge.Wire.Script

/-!
# What a refused device comes to

A daemon that refuses a device tells why. Three texts stand for an error of their own: two tell that the
daemon does not have the device, one that the device is offline. Any other text should be kept in the
error. It is kept unless one of two phrases occurs in it, wherever that may be.

Results:
* `selectionError_eq_rejected_iff`, `selectionError_eq_deviceNotFound_iff`,
  `selectionError_eq_deviceOffline_iff`: which error a text comes to;
* `announced_selectionError_iff`: for which texts it is the one that they stand for;
* `error_of_refusal`: both for a selected device and for a command.
-/

namespace DebugBridge

open Text (Occurs contains_iff)

/-! ## Texts and their errors -/

/-- A text that stands for an unknown device. -/
def IsUnknownNotice (message : String) : Prop :=
  message = "device not found" ∨ ∃ s, message = "device '" ++ s ++ "' not found"

/-- The text that stands for a device that is offline. -/
def offlineNotice : String := "device offline"

/-- The error that a refusal stands for: any text without an error of its own is kept. -/
inductive Announced (serial : String) : String → Error → Prop
  | unknown {message : String} (h : IsUnknownNotice message) :
      Announced serial message (.deviceNotFound serial)
  | offline : Announced serial offlineNotice (.deviceOffline serial)
  | other {message : String} (hunknown : ¬ IsUnknownNotice message) (hoffline : message ≠ offlineNotice) :
      Announced serial message (.rejected message)

variable {serial message : String}

theorem IsUnknownNotice.occurs (h : IsUnknownNotice message) : Occurs "not found" message := by
  rcases h with rfl | ⟨s, rfl⟩
  · exact ⟨"device ".toList, [], rfl⟩
  · refine ⟨("device '" ++ s ++ "' ").toList, [], ?_⟩
    rw [List.append_nil, ← String.toList_append, String.append_assoc]
    rfl

theorem Announced.isUnknownNotice {s : String} (h : Announced serial message (.deviceNotFound s)) :
    IsUnknownNotice message := by
  cases h
  assumption

theorem occurs_offlineNotice : Occurs "offline" offlineNotice := ⟨"device ".toList, [], rfl⟩

theorem selectionError_eq_deviceNotFound_iff :
    selectionError serial message = .deviceNotFound serial ↔ Occurs "not found" message := by
  rw [← contains_iff, selectionError]
  split_ifs <;> simp_all

theorem selectionError_eq_deviceOffline_iff :
    selectionError serial message = .deviceOffline serial ↔
      Occurs "offline" message ∧ ¬ Occurs "not found" message := by
  rw [← contains_iff, ← contains_iff, selectionError]
  split_ifs <;> simp_all

theorem selectionError_eq_rejected_iff :
    selectionError serial message = .rejected message ↔
      ¬ Occurs "not found" message ∧ ¬ Occurs "offline" message := by
  rw [← contains_iff, ← contains_iff, selectionError]
  split_ifs <;> simp_all

/-- A text comes to the error that it stands for if it has one of its own, or no phrase occurs in it. -/
theorem announced_selectionError_iff :
    Announced serial message (selectionError serial message) ↔
      IsUnknownNotice message ∨ message = offlineNotice ∨
        ¬ Occurs "not found" message ∧ ¬ Occurs "offline" message := by
  constructor
  · generalize herror : selectionError serial message = e
    rintro (h | _ | _)
    · exact .inl h
    · exact .inr (.inl rfl)
    · exact .inr (.inr (selectionError_eq_rejected_iff.1 herror))
  · rintro (h | rfl | h)
    · rw [selectionError_eq_deviceNotFound_iff.2 h.occurs]
      exact .unknown h
    · have hnot : ¬ Occurs "not found" offlineNotice := by
        rw [← contains_iff]
        decide
      rw [selectionError_eq_deviceOffline_iff.2 ⟨occurs_offlineNotice, hnot⟩]
      exact .offline
    · rw [selectionError_eq_rejected_iff.2 h]
      exact .other (fun hunknown => h.1 hunknown.occurs) fun hoffline =>
        h.2 (hoffline ▸ occurs_offlineNotice)

/-! ## Refused requests -/

variable {D S : Type} [Daemon D S]

/-- The request for a service is answered by a refusal with a text. -/
def Wire.Refuses (w : Wire D S) (service message : String) : Prop :=
  ∃ bytes framed payload rest, encodeRequest service = .ok bytes ∧ IsFrame framed payload ∧
    message = Utf8.lossy payload ∧
    let r := Daemon.receive w.daemon w.session bytes
    (w.stream.extend r.answer r.ending).bytes = failToken ++ (framed ++ rest)

variable {service : String} {w : Wire D S}

/-- A refusal with a text, as it is sent. -/
def refusal (message : String) : Bytes :=
  failToken ++ (lengthDigits (Bytes.ofString message).length ++ Bytes.ofString message)

/-- Any text can be sent within the limit. -/
theorem refuses_of_refusal {w : Wire Script Ending} {ending : Ending}
    (hservice : (Bytes.ofString service).length ≤ longestRequest)
    (hmessage : (Bytes.ofString message).length ≤ longestRequest)
    (hstream : w.stream = .ofBytes (refusal message) ending) : w.Refuses service message := by
  refine ⟨_, _, _, [], encodeRequest_of_le hservice, isFrame_lengthDigits hmessage,
    (Utf8.lossy_ofString message).symm, ?_⟩
  intro r
  have hsilent : r.answer = [] := rfl
  rw [Stream.bytes_extend, hstream, hsilent, Stream.bytes_ofBytes, List.append_nil, List.append_nil]
  rfl

namespace Call

theorem request_of_refusal (h : w.Refuses service message) :
    ((request service).run w).1 = .error (.rejected message) := by
  obtain ⟨bytes, framed, payload, rest, hbytes, hframe, rfl, hanswer⟩ := h
  obtain ⟨s, hs, -⟩ := Read.gives_fail hframe hanswer
  rw [run_request hbytes hs]

theorem requestFor_of_refusal (serial : String) (h : w.Refuses service message) :
    ((requestFor serial service).run w).1 = .error (selectionError serial message) := by
  obtain ⟨w', hw'⟩ : ∃ w', (request service).run w = (.error (.rejected message), w') :=
    ⟨_, Prod.ext (request_of_refusal h) rfl⟩
  rw [requestFor, run_tryCatch, hw']
  rfl

end Call

theorem Shell.run_of_refusal {σ : Type} {d : D} {command : String} (limit : Duration)
    (r : Receiver σ) (s : σ) (hdial : (Net.dial d).1 = .ok w)
    (h : w.Refuses (Shell.service serial command) message) :
    (Shell.run serial command limit r s d).1 =
      (s, .error (.failed (selectionError serial message))) := by
  obtain ⟨d₁, hd⟩ : ∃ d₁, Net.dial d = (.ok w, d₁) := ⟨_, Prod.ext hdial rfl⟩
  obtain ⟨w', hw'⟩ : ∃ w', (Call.requestFor serial (Shell.service serial command)).run w =
      (.error (selectionError serial message), w') :=
    ⟨_, Prod.ext (Call.requestFor_of_refusal serial h) rfl⟩
  simp only [Shell.run, Net.converse, hd, hw']

/-- **Main theorem.** A refused selection of a device, and a refused command on it, fail with one and the
same error, and the receiver of the command gets nothing.
* The text of the refusal is kept exactly if neither phrase occurs in it.
* If it is not kept, the error says that the device is unknown or that it is offline, by the phrase that
  occurs; an unknown device goes before.
* The error is the one that the text stands for, if the text has an error of its own, or neither phrase
  occurs in it, and not otherwise. -/
theorem error_of_refusal (serial message : String) :
    (∀ w : Wire D S, w.Refuses s!"host:transport:{serial}" message →
      ((Call.select serial).run w).1 = .error (selectionError serial message)) ∧
    (∀ (d : D) (w : Wire D S) (command : String), (Net.dial d).1 = .ok w →
      w.Refuses (Shell.service serial command) message →
        ∀ (σ : Type) (limit : Duration) (r : Receiver σ) (s : σ),
          (Shell.run serial command limit r s d).1 =
            (s, .error (.failed (selectionError serial message)))) ∧
    (selectionError serial message = .rejected message ↔
      ¬ Occurs "not found" message ∧ ¬ Occurs "offline" message) ∧
    (selectionError serial message = .deviceNotFound serial ↔ Occurs "not found" message) ∧
    (selectionError serial message = .deviceOffline serial ↔
      Occurs "offline" message ∧ ¬ Occurs "not found" message) ∧
    (Announced serial message (selectionError serial message) ↔
      IsUnknownNotice message ∨ message = offlineNotice ∨
        ¬ Occurs "not found" message ∧ ¬ Occurs "offline" message) :=
  ⟨fun _ h => Call.requestFor_of_refusal serial h,
    fun _ _ _ hdial h _ limit r s => Shell.run_of_refusal limit r s hdial h,
    selectionError_eq_rejected_iff, selectionError_eq_deviceNotFound_iff,
    selectionError_eq_deviceOffline_iff, announced_selectionError_iff⟩

/-- The text of a refusal for another reason is kept, and a device that is unknown is told. -/
theorem error_of_refusal_closed :
    let w (message : String) : Wire Script Ending :=
      ⟨.saying "" default, .closed, .ofBytes (refusal message) .closed⟩
    ((Call.select "abc").run (w "closed")).1 = .error (.rejected "closed") ∧
      ((Call.select "abc").run (w "device 'abc' not found")).1 = .error (.deviceNotFound "abc") := by
  intro w
  obtain ⟨hclosed, -⟩ := error_of_refusal (D := Script) (S := Ending) "abc" "closed"
  obtain ⟨hunknown, -⟩ := error_of_refusal (D := Script) (S := Ending) "abc" "device 'abc' not found"
  refine ⟨(hclosed (w _) (refuses_of_refusal (by decide) (by decide) rfl)).trans ?_,
    (hunknown (w _) (refuses_of_refusal (by decide) (by decide) rfl)).trans ?_⟩ <;> rfl

/-- The text of a refusal for another reason is lost, if a phrase occurs in it. -/
theorem shell_of_serviceNotFound :
    let message := "service not found"
    let d : Script := .saying "" (.ofBytes (refusal message) .closed)
    (Shell.run "abc" "ls" .zero .collecting [] d).1 =
        ([], .error (.failed (.deviceNotFound "abc"))) ∧
      Announced "abc" message (.rejected message) ∧
        ¬ Announced "abc" message (.deviceNotFound "abc") := by
  intro message d
  have hnotice : ¬ IsUnknownNotice message := by
    rintro (h | ⟨s, h⟩)
    · exact absurd h (by decide)
    · have hfirst := congrArg (·.toList.head?) h
      rw [String.toList_append, String.toList_append] at hfirst
      exact absurd hfirst (by simp [message])
  refine ⟨?_, .other hnotice (by decide), ?_⟩
  · have hlost : selectionError "abc" message = .deviceNotFound "abc" := by decide
    rw [Shell.run_of_refusal .zero .collecting [] rfl
      (refuses_of_refusal (by decide) (by decide) rfl), hlost]
  · exact fun h => hnotice h.isUnknownNotice

end DebugBridge
