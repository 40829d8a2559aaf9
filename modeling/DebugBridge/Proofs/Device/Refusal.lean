import DebugBridge.Device.Operation
import DebugBridge.Proofs.Device.Commands
import DebugBridge.Wire.Script

/-!
# Devices that cannot be used

An operation on a device that is unknown, or known and not usable, is refused before anything is done:
the daemon, the local files and the registry are left as they are (`Desk.Yields`). Every operation but
the listing of forwards goes through `Device.ifOnline`, at first hand, by way of a sync session, or by
way of the steps of a package's installation. The listing asks the daemon whatever the registry holds.

Results:
* `Device.perform_of_refused`, an operation on a device that cannot be used;
* `Device.perform_of_not_online`, by what the registry holds of the device.
-/

namespace DebugBridge

variable {D S : Type} [Daemon D S] {d : Device} {site : Site D} {e : Error}

/-! ## Work that touches nothing -/

namespace Desk

/-- The work has a result at once and leaves the site as it is. -/
def Yields (x : Desk D α) (site : Site D) (a : α) : Prop := x site = (some a, site)

theorem yields_pure (a : α) (site : Site D) : Yields (pure a) site a := rfl

theorem Yields.bind {x : Desk D α} {f : α → Desk D β} {a : α} {b : β} (hx : Yields x site a)
    (hf : Yields (f a) site b) : Yields (x >>= f) site b :=
  (bind_apply hx f).trans hf

theorem Yields.map {x : Desk D α} {a : α} (hx : Yields x site a) (f : α → β) :
    Yields (f <$> x) site (f a) :=
  hx.bind (yields_pure (f a) site)

end Desk

open Desk

/-! ## Packages on a target that refuses -/

namespace PackageTarget

variable {t : PackageTarget (Desk D)} {command path remote : String} {limit : Duration}
  {batches : List (List String)}

theorem yields_manage (h : Yields (t.shell command limit) site ⟨batches, .error e⟩) :
    Yields (t.manage command limit) site (.error (.installFailed e.message)) :=
  h.map outcome

theorem yields_removeStaged
    (h : Yields (t.shell (removeCommand remote) limit) site ⟨batches, .error e⟩) :
    Yields (t.removeStaged remote limit) site
      (.error (.installFailed (s!"Failed to delete {remote}: " ++ e.message))) :=
  h.bind (yields_pure _ _)

/-- A package that cannot be pushed is not staged. -/
theorem yields_stage (h : ∀ remote, Yields (t.push path remote) site (.error e)) :
    Yields (t.stage path) site (.error (DeviceOperation.unstaged path e)) := by
  unfold stage DeviceOperation.unstaged
  cases stagedPath path with
  | error wrong => exact yields_pure _ _
  | ok remote => exact (h remote).bind (yields_pure _ _)

/-- A package that is not staged is not installed. -/
theorem yields_install (h : Yields (t.stage path) site (.error e)) (reinstall : Bool) :
    Yields (t.install path reinstall limit) site (.error e) :=
  h.bind (yields_pure _ _)

end PackageTarget

/-! ## The errors of operations -/

namespace DeviceOperation

theorem refusal_of_others (op : DeviceOperation) (cause : Error)
    (h : op.isAboutPackages = false) : op.refusal cause = cause := by
  cases op with
  | install | uninstall | stagePackage | installStaged | removeStaged => cases h
  | _ => rfl

/-- The reason why an installation failed is the step that failed and the cause, or that the path of a
package names no file. -/
def IsWrapped (e cause : Error) : Prop :=
  (∃ step, e = .installFailed (step ++ cause.message)) ∨
    ∃ path, lastComponent? path = none ∧ e = .installFailed s!"Invalid package path: {path}"

theorem isWrapped_unstaged (path : String) (cause : Error) :
    IsWrapped (unstaged path cause) cause := by
  unfold unstaged stagedPath
  cases hname : lastComponent? path with
  | none => exact .inr ⟨path, hname, rfl⟩
  | some name => exact .inl ⟨_, rfl⟩

theorem isWrapped_refusal (op : DeviceOperation) (cause : Error) (h : op.isAboutPackages = true) :
    IsWrapped (op.refusal cause) cause := by
  cases op with
  | install path reinstall => exact isWrapped_unstaged path cause
  | stagePackage path => exact isWrapped_unstaged path cause
  | uninstall | installStaged => exact .inl ⟨"", by simp [refusal]⟩
  | removeStaged remote => exact .inl ⟨_, rfl⟩
  | _ => cases h

end DeviceOperation

/-! ## Operations on a device that is refused -/

namespace Device

/-- Why a device cannot be used. -/
theorem ensureOnline_of_not_online {reg : Registry} (h : reg.state? d.serial ≠ some .online) :
    d.ensureOnline reg = .error
      (match reg.state? d.serial with
        | none => .deviceNotFound d.serial
        | some _ => .deviceOffline d.serial) := by
  unfold ensureOnline
  cases hstate : reg.state? d.serial with
  | none => rfl
  | some state =>
    cases state with
    | online => exact absurd hstate h
    | offline | bootloader | disconnected => rfl

section Refused

variable (h : d.ensureOnline site.registry = .error e)

include h

theorem yields_ifOnline (refused : Error → α) (work : Desk D α) :
    Yields (d.ifOnline refused work) site (refused e) := by
  unfold Yields ifOnline
  rw [h]

theorem yields_shell (command : String) (limit : Duration) (r : Receiver σ) (s : σ) :
    Yields (d.shell command limit r s) site (s, .error e) :=
  yields_ifOnline h _ _

theorem yields_openSession : Yields (d.openSession : Desk D _) site (.error e) :=
  yields_ifOnline h _ _

theorem yields_transfer (work : LocalFiles → StateM (Wire D S) Sync.Transfer) :
    Yields (d.transfer work) site ([], .error e) := by
  have hrequire : Yields (d.requireSession : Desk D _) site (.error e) :=
    (yields_openSession h).bind (yields_pure (Except.error e) site)
  exact hrequire.bind (yields_pure ([], Except.error e) site)

theorem yields_targetPush (path remote : String) :
    Yields ((d.packageTarget : PackageTarget (Desk D)).push path remote) site (.error e) :=
  (yields_transfer h _).map _

theorem yields_targetShell (command : String) (limit : Duration) :
    Yields ((d.packageTarget : PackageTarget (Desk D)).shell command limit) site
      ⟨[], .error e⟩ :=
  (yields_shell h command limit _ _).map _

/-- An operation on a device that cannot be used comes to its refusal, and touches nothing. By cases
of the operation: each reaches the check by its own way. -/
theorem perform_of_refused {op : DeviceOperation} (hop : op.looksUp = true) :
    Yields (d.perform op : Desk D _) site (.error (op.refusal e)) := by
  have hlimit : Yields (installLimit : Desk D _) site site.installLimit := rfl
  have hstage (path : String) := PackageTarget.yields_stage (yields_targetPush h path)
  cases op with
  | shell command limit r s => exact (yields_shell h command limit r s).map _
  | openSession => exact (yields_openSession h).map _
  | push path remote => exact (yields_transfer h _).map _
  | pull remote path => exact (yields_transfer h _).map _
  | install path reinstall =>
    exact hlimit.bind (PackageTarget.yields_install (hstage path) reinstall)
  | uninstall package =>
    exact hlimit.bind (PackageTarget.yields_manage (yields_targetShell h _ _))
  | stagePackage path => exact (hstage path).map (·.map fun _ => ())
  | installStaged remote reinstall =>
    exact hlimit.bind (PackageTarget.yields_manage (yields_targetShell h _ _))
  | removeStaged remote =>
    exact hlimit.bind (PackageTarget.yields_removeStaged (yields_targetShell h _ _))
  | createForward localPort remotePort => exact yields_ifOnline h _ _
  | removeForward localPort => exact yields_ifOnline h _ _
  | forwards => cases hop
  | reboot mode => exact yields_ifOnline h _ _

end Refused

/-- To list the forwards is to ask the daemon. -/
theorem perform_forwards (d : Device) (site : Site D) :
    d.perform .forwards site =
      ((Desk.reach Host.forwards site).1.map (·.map fun _ => ()),
        (Desk.reach Host.forwards site).2) := by
  show ((·.map fun _ => ()) <$> d.forwards : Desk D (Except Error Unit)) site = _
  rw [map_apply, forwards, map_apply, Option.map_map]
  congr 2
  funext rules
  cases rules <;> rfl

/-- What the daemon is asked, and what comes of it, does not depend on the registry. -/
theorem reach_withRegistry (op : Net D α) (site : Site D) (reg : Registry) :
    Desk.reach op { site with registry := reg } =
      ((Desk.reach op site).1, { (Desk.reach op site).2 with registry := reg }) := by
  unfold Desk.reach
  rcases op site.daemon with ⟨⟨_ | _⟩ | _, d'⟩ <;> rfl

/-- **Main theorem.** Whatever the registry holds, if it does not hold the device as usable, every
operation that looks the device up fails, and leaves the daemon, the local files and the registry as
they are, whichever daemon it is: no connection is opened and nothing is sent. Its error is that the
device is not found, or that it is offline; an operation about packages tells so as the reason why an
installation failed.

To list the forwards is the one operation that does not look: what it asks the daemon, and what comes
of that, is the same with every registry. -/
theorem perform_of_not_online (d : Device) (site : Site D)
    (hstate : site.registry.state? d.serial ≠ some .online) :
    (∀ op : DeviceOperation, op.looksUp = true → ∃ cause : Error,
      cause = (match site.registry.state? d.serial with
        | none => .deviceNotFound d.serial
        | some _ => .deviceOffline d.serial) ∧
      d.perform op site = (some (.error (op.refusal cause)), site) ∧
      (op.isAboutPackages = false → op.refusal cause = cause) ∧
      (op.isAboutPackages = true → DeviceOperation.IsWrapped (op.refusal cause) cause)) ∧
    (∀ op : DeviceOperation, op.looksUp = false ↔ op = .forwards) ∧
    (∀ reg : Registry, d.perform .forwards { site with registry := reg } =
      ((d.perform .forwards site).1, { (d.perform .forwards site).2 with registry := reg })) := by
  refine ⟨fun op hop => ?_, fun op => ?_, fun reg => ?_⟩
  · exact ⟨_, rfl, perform_of_refused (ensureOnline_of_not_online hstate) hop,
      op.refusal_of_others _, op.isWrapped_refusal _⟩
  · cases op <;> simp [DeviceOperation.looksUp]
  · rw [perform_forwards, perform_forwards, reach_withRegistry]

/-- A device is known and offline; the daemon answers what it is asked with an empty list. -/
def offlineSite : Site Script :=
  ⟨(Registry.empty.applyList [⟨"s", .offline⟩]).registry,
    .saying "" ⟨okayToken ++ Bytes.ofString "0000", [], .closed⟩, .empty, .zero⟩

theorem perform_of_not_online_uninstall :
    offlineSite.registry.state? "s" ≠ some .online ∧
      Device.perform ⟨"s"⟩ (.uninstall "com.test") offlineSite =
        (some (.error (.installFailed "Device is offline: s")), offlineSite) := by
  have hstate : offlineSite.registry.state? "s" ≠ some .online := by decide
  obtain ⟨cause, rfl, hperform, -⟩ :=
    (perform_of_not_online ⟨"s"⟩ offlineSite hstate).1 (.uninstall "com.test") rfl
  exact ⟨hstate, hperform⟩

/-- Listing the forwards of a device that is not known asks the daemon, and succeeds. -/
theorem perform_forwards_of_unknown :
    offlineSite.registry.state? "t" = none ∧
      (Device.perform ⟨"t"⟩ .forwards offlineSite).1 = some (.ok ()) ∧
      encodeRequest "host:list-forward" =
        .ok (Device.perform ⟨"t"⟩ .forwards offlineSite).2.daemon.told :=
  ⟨rfl, rfl, rfl⟩

end Device

end DebugBridge
