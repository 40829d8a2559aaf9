import DebugBridge.Proofs.Device.Commands
import DebugBridge.Proofs.Sync.Entering
import DebugBridge.Wire.Recorded

/-!
# Devices that do not offer the sync service

A handle has no sync session if the device refuses the service, and then a push or a pull ends before any
packet is sent or any file is looked at.

Results:
* `transfer_of_refused`, a transfer without a session;
* `session_of_answers`, when a session is opened, not available or broken off, and what a push and a pull
  do without one.
-/

namespace DebugBridge

namespace Device

open Sync

variable {D S : Type} [Daemon D S] {d : Device} {site : Site D} {w : Wire D S}

/-- What a handle makes of what comes of opening a session. -/
def sessionOf (link : Link S) : Except Error Unit → Except Error (Option (Link S))
  | .ok () => .ok (some link)
  | .error (.syncUnavailable _ _) => .ok none
  | .error e => .error e

theorem sessionOf_eq_none_iff {r result : Except Error Unit} {link : Link S}
    (h : Opens d.serial r result) :
    sessionOf link result = .ok none ↔ ∃ reason, result = .error (.syncUnavailable d.serial reason) := by
  cases h with
  | granted => simp [sessionOf]
  | refused message reason => exact iff_of_true rfl ⟨reason, rfl⟩
  | @broken e h =>
    cases e with
    | syncUnavailable => cases h
    | _ => simp [sessionOf]

theorem openSession_of_run (honline : site.registry.state? d.serial = some .online)
    (hdial : (Net.dial site.daemon).1 = .ok w) {result : Except Error Unit} {w' : Wire D S}
    (hrun : (enter d.serial).run w = (result, w')) :
    d.openSession site =
      (some (sessionOf ⟨w'.session, w'.stream⟩ result), { site with daemon := w'.daemon }) := by
  have hconverse := Net.converse_of_dial hdial (enter d.serial)
  rw [hrun] at hconverse
  simp only [openSession, ifOnline, ensureOnline, honline, hconverse]
  rcases result with e | _
  · cases e <;> rfl
  · rfl

/-- A transfer on a device that refuses the service ends there. -/
theorem transfer_of_refused {site' : Site D} (h : d.openSession site = (some (.ok none), site'))
    (work : LocalFiles → StateM (Wire D S) Transfer) :
    d.transfer work site = (some ([], .error
      (.syncUnavailable d.serial "device refused the sync service")), site') := by
  have hrequire : d.requireSession site = (some (.error
      (.syncUnavailable d.serial "device refused the sync service")), site') := by
    rw [requireSession, Desk.bind_apply h]
    rfl
  rw [transfer, Desk.bind_apply hrequire]
  rfl

/-- Only the requests are sent, the second after consent to the first. -/
theorem told_asked {D : Type} [Daemon D S] (w : Wire (Recorded D) S) (serial : String) :
    (asked w serial).daemon.told = w.daemon.told ++ requested (selection serial) ++
      if okayToken <+: (asked w serial).stream.bytes then requested "sync:" else [] := by
  have hfeed (w : Wire (Recorded D) S) (b : Bytes) : (feed w b).daemon.told = w.daemon.told ++ b := rfl
  rw [asked]
  by_cases hokay : okayToken <+: (feed w (requested (selection serial))).stream.bytes
  · have hstill : okayToken <+:
        (feed (feed w (requested (selection serial))) (requested "sync:")).stream.bytes := by
      rw [bytes_feed]
      exact hokay.trans (List.prefix_append _ _)
    rw [if_pos hokay, if_pos hstill, hfeed, hfeed]
  · rw [if_neg hokay, if_neg hokay, hfeed, List.append_nil]

/-- **Main theorem.** A daemon answers, on a new connection, the requests that open a sync session; the
second is made after consent to the first.
* A session is opened exactly if both answers are consent.
* The service is not available exactly if the first answer that is no consent is a refusal, whatever its
  message.
* What is no answer, and an answer that breaks off at the end, is an error of the protocol. If the daemon
  is silent in the middle of an answer, the time is over.
* For a device that is online, a handle has no session exactly if the service is not available. Then a push
  and a pull fail as it is not; nothing but the requests is sent, and the local files are left alone. -/
theorem session_of_answers {D : Type} [Daemon D S] {site : Site (Recorded D)} {w : Wire (Recorded D) S}
    (hdial : (Net.dial site.daemon).1 = .ok w)
    (hshort : (Bytes.ofString (selection d.serial)).length ≤ longestRequest) :
    let heard := (asked w d.serial).stream
    let opened := (Net.converse (enter d.serial) site.daemon).1
    ((∃ link, opened = .ok link) ↔ okayToken ++ okayToken <+: heard.bytes) ∧
    ((∃ reason, opened = .error (.syncUnavailable d.serial reason)) ↔
      InAnswers IsRefusal heard.bytes) ∧
    (∀ detail, opened = .error (.protocol detail) ↔
      InAnswers (fun b => BadAnswer b detail ∨ heard.ending = .closed ∧
        ∃ n, CutAnswer b n ∧ detail = s!"stream ended after fewer than {n} bytes") heard.bytes) ∧
    (opened = .error (.timeout "waiting for adb status") ↔
      InAnswers (fun b => heard.ending = .silent ∧ ∃ n, CutAnswer b n) heard.bytes) ∧
    (site.registry.state? d.serial = some .online →
      ((d.openSession site).1 = some (.ok none) ↔ InAnswers IsRefusal heard.bytes) ∧
      (InAnswers IsRefusal heard.bytes →
        ∀ path remote, ∀ x ∈ [d.push path remote, d.pull remote path],
          ∃ after, x site = (some ([], .error
              (.syncUnavailable d.serial "device refused the sync service")), after) ∧
            after.files = site.files ∧ after.registry = site.registry ∧
            after.daemon.told = site.daemon.told ++ requested (selection d.serial) ++
              if okayToken <+: heard.bytes then requested "sync:" else [])) := by
  intro heard opened
  obtain ⟨r, hdecides⟩ := exists_decides heard.ending heard.bytes
  obtain ⟨result, rest, hrun, hopens⟩ := run_enter hshort w hdecides
  have hopened : opened = result.map fun _ => ((), (asked w d.serial).session, rest) := by
    show (Net.converse (enter d.serial) site.daemon).1 = _
    rw [Net.converse_of_dial hdial, hrun]
  have herror (e : Error) : opened = .error e ↔ result = .error e := by
    rw [hopened]
    cases result <;> simp [Except.map]
  have hunavailable : (∃ reason, result = .error (.syncUnavailable d.serial reason)) ↔
      InAnswers IsRefusal heard.bytes := by
    simp only [hopens.unavailable_iff, hdecides.eq_iff, decides_rejected_iff]
  refine ⟨?_, ?_, fun detail => ?_, ?_, fun honline => ?_⟩
  · rw [← decides_ok_iff, ← hdecides.eq_iff, ← hopens.ok_iff, hopened]
    cases result <;> simp [Except.map]
  · simp only [herror, hunavailable]
  · rw [herror, hopens.error_iff rfl, hdecides.eq_iff, decides_error_iff]
    simp only [answered_protocol_iff]
  · rw [herror, hopens.error_iff rfl, hdecides.eq_iff, decides_error_iff]
    simp only [answered_timeout_iff]
  · have hsession := openSession_of_run honline hdial hrun
    refine ⟨?_, fun hrefusal path remote x hx => ?_⟩
    · rw [hsession, ← hunavailable, ← sessionOf_eq_none_iff hopens, Option.some.injEq]
    · obtain ⟨reason, rfl⟩ := hunavailable.2 hrefusal
      have hrefused := transfer_of_refused hsession
      refine ⟨{ site with daemon := (asked w d.serial).daemon }, ?_, rfl, rfl, ?_⟩
      · simp only [List.mem_cons, List.not_mem_nil, or_false] at hx
        rcases hx with rfl | rfl
        · exact hrefused _
        · exact hrefused _
      · rw [told_asked, Recorded.told_dial hdial]

/-- A daemon that selects the device and refuses the service is told two requests. -/
theorem session_of_answers_of_refusing :
    let site : Site (Recorded Script) :=
      ⟨⟨.ofList [("s", .fresh .online)]⟩,
        ⟨.saying "" (.ofBytes (Bytes.ofString "OKAYFAIL0002no") .silent), []⟩, .empty, default⟩
    ((Device.mk "s").openSession site).1 = some (.ok none) ∧
    ∃ after, (Device.mk "s").push "/local" "/remote" site = (some ([], .error
        (.syncUnavailable "s" "device refused the sync service")), after) ∧
      after.files = site.files ∧
      after.daemon.told = Bytes.ofString "0010host:transport:s0005sync:" := by
  intro site
  have hdial : (Net.dial site.daemon).1 = .ok (⟨_, _, _⟩ : Wire (Recorded Script) Ending) := rfl
  have honline : site.registry.state? (Device.mk "s").serial = some .online := by decide
  obtain ⟨-, -, -, -, hdevice⟩ := session_of_answers (d := ⟨"s"⟩) hdial (by decide)
  obtain ⟨hnone, htransfer⟩ := hdevice honline
  have hframe : IsFrame (Bytes.ofString "0002no") (Bytes.ofString "no") :=
    ⟨by decide, Bytes.ofString "0002", by decide, by decide⟩
  have hrefusal : InAnswers IsRefusal (Bytes.ofString "OKAYFAIL0002no") :=
    .inr ⟨Bytes.ofString "FAIL0002no", by decide, _, _, [], hframe, by decide⟩
  obtain ⟨after, hpush, hfiles, -, htold⟩ := htransfer hrefusal "/local" "/remote" _ List.mem_cons_self
  exact ⟨hnone.2 hrefusal, after, hpush, hfiles, htold.trans (by decide)⟩

end Device

end DebugBridge
