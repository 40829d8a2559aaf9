import DebugBridge.LocalFiles
import DebugBridge.Package.Install
import DebugBridge.Registry.Basic
import DebugBridge.Shell.Command
import DebugBridge.Sync.Session
import DebugBridge.Wire.Host

/-!
# Device handles

A handle names a device by its serial and may outlive it. Readers tell what the registry holds at
that moment. An operation looks the device up first, and talks to the daemon only if the device is
known and usable; only listing the forwards does not look.

Operations work on a `Site`: the registry, the daemon, and the local files. An operation that waits
for output without end has no result (`Desk`).
-/

namespace DebugBridge

/-- What operations on devices work on. -/
structure Site (D : Type) where
  /-- The known devices. -/
  registry : Registry
  /-- The daemon. -/
  daemon : D
  /-- The local files. -/
  files : LocalFiles
  /-- How long the package manager may be silent. -/
  installLimit : Duration

/-- Work on a site, which may wait without end. -/
abbrev Desk (D : Type) := OptionT (StateM (Site D))

namespace Desk

/-- Talks to the daemon. -/
def reach (op : Net D α) : Desk D (Except Error α) := fun site =>
  match op site.daemon with
  | (.ok a, d) => (some (.ok a), { site with daemon := d })
  | (.error (.failed e), d) => (some (.error e), { site with daemon := d })
  | (.error .waiting, d) => (none, { site with daemon := d })

end Desk

/-- A handle to a device. -/
structure Device where
  /-- The device's serial. -/
  serial : String
  deriving Repr, DecidableEq, Inhabited

namespace Device

/-! ## Readers -/

/-- The device's snapshot, if it is known. -/
def snapshot? (d : Device) (reg : Registry) : Option Snapshot := reg.device? d.serial

/-- The device's state; a device that is not known is disconnected. -/
def state (d : Device) (reg : Registry) : DeviceState := (reg.state? d.serial).getD .disconnected

/-- Has the device the serial of an emulator with a console port? -/
def isEmulator (d : Device) : Bool := (Serial.consolePort? d.serial).isSome

/-- The device's properties; none if it is not known. -/
def properties (d : Device) (reg : Registry) : Dict String :=
  ((d.snapshot? reg).map (·.properties)).getD .empty

/-- The path of a mount point. -/
def mountPoint? (d : Device) (reg : Registry) (name : String) : Option String :=
  (d.snapshot? reg).bind fun s => s.mountPoints.get? name

/-- The name of the virtual device. -/
def avdName? (d : Device) (reg : Registry) : Option String := (d.snapshot? reg).bind (·.avdName)

/-- The device's clients. -/
def clients (d : Device) (reg : Registry) : List Client := reg.clients d.serial

/-- The name of the client with a process number. -/
def clientName? (d : Device) (reg : Registry) (pid : UInt32) : Option String :=
  ((d.clients reg).find? (·.pid == pid)).bind (·.description)

/-- The first client of a name. -/
def clientByName? (d : Device) (reg : Registry) (name : String) : Option Client :=
  (d.clients reg).find? (·.description == some name)

/-- Is the device known and usable? If not, the error tells which it lacks. -/
def ensureOnline (d : Device) (reg : Registry) : Except Error Unit :=
  match reg.state? d.serial with
  | none => .error (.deviceNotFound d.serial)
  | some .online => .ok ()
  | some _ => .error (.deviceOffline d.serial)

/-- Work on a device that is known and usable; else the error goes to `refused`. -/
def ifOnline (d : Device) (refused : Error → α) (work : Desk D α) : Desk D α := fun site =>
  match d.ensureOnline site.registry with
  | .error e => (some (refused e), site)
  | .ok () => work site

/-! ## Shell -/

variable {D S : Type} [Daemon D S]

/-- Runs a command, its output going to a receiver. -/
def shell (d : Device) (command : String) (limit : Duration) (r : Receiver σ) (s : σ) :
    Desk D (σ × Except Error Unit) :=
  d.ifOnline (fun e => (s, .error e)) fun site =>
    match Shell.run d.serial command limit r s site.daemon with
    | ((s, .ok ()), daemon) => (some (s, .ok ()), { site with daemon })
    | ((s, .error (.failed e)), daemon) => (some (s, .error e), { site with daemon })
    | ((_, .error .waiting), daemon) => (none, { site with daemon })

/-! ## Files -/

/-- A sync session and what is still to be received on it. -/
structure Link (S : Type) where
  /-- The daemon's session. -/
  session : S
  /-- What is received. -/
  stream : Stream

/-- Opens a sync session; none if the device refuses the service. -/
def openSession (d : Device) : Desk D (Except Error (Option (Link S))) :=
  d.ifOnline .error fun site =>
    match Net.converse (Sync.enter d.serial) site.daemon with
    | (.ok (_, session, stream), daemon) =>
      (some (.ok (some ⟨session, stream⟩)), { site with daemon })
    | (.error (.syncUnavailable _ _), daemon) => (some (.ok none), { site with daemon })
    | (.error e, daemon) => (some (.error e), { site with daemon })

/-- Opens a sync session, which the device must not refuse. -/
def requireSession (d : Device) : Desk D (Except Error (Link S)) := do
  match ← d.openSession with
  | .ok (some link) => pure (.ok link)
  | .ok none => pure (.error (.syncUnavailable d.serial "device refused the sync service"))
  | .error e => pure (.error e)

/-- Works in a sync session and leaves it. -/
def inSession (link : Link S) (work : LocalFiles → StateM (Wire D S) (α × LocalFiles)) : Desk D α :=
  fun site =>
    let ((a, files), w) := work site.files ⟨site.daemon, link.session, link.stream⟩
    let (_, w) := Sync.quit w
    (some a, { site with daemon := w.daemon, files })

/-- Pushes or pulls a file; gives the reports on its progress and what came of it. -/
def transfer (d : Device) (work : LocalFiles → StateM (Wire D S) Sync.Transfer) :
    Desk D (List Sync.Progress × Except Error Unit) := do
  match ← d.requireSession with
  | .error e => pure ([], .error e)
  | .ok link =>
    let t ← inSession link fun fs => (fun t => (t, t.files)) <$> work fs
    pure (t.progress, t.outcome.toResult)

/-- Pushes a local file to a remote path. -/
def push (d : Device) (path remote : String) : Desk D (List Sync.Progress × Except Error Unit) :=
  d.transfer fun fs => Sync.push fs path remote

/-- Pulls a remote file to a local path. -/
def pull (d : Device) (remote path : String) : Desk D (List Sync.Progress × Except Error Unit) :=
  d.transfer fun fs => Sync.pull fs remote path

/-! ## Packages -/

/-- The device as a place to install packages on. -/
def packageTarget (d : Device) : PackageTarget (Desk D) where
  push path remote := (·.2) <$> d.push path remote
  shell command limit := (fun (batches, r) => ⟨batches, r⟩) <$> d.shell command limit .batches []

/-- How long the package manager may be silent. -/
def installLimit : Desk D Duration := fun site => (some site.installLimit, site)

/-- Installs a local package. -/
def install (d : Device) (path : String) (reinstall : Bool) : Desk D (Except Error Unit) := do
  d.packageTarget.install path reinstall (← installLimit)

/-- Removes an installed package. -/
def uninstall (d : Device) (package : String) : Desk D (Except Error Unit) := do
  d.packageTarget.uninstall package (← installLimit)

/-- Stages a local package and tells where it is. -/
def stagePackage (d : Device) (path : String) : Desk D (Except Error String) :=
  d.packageTarget.stage path

/-- Installs a staged package. -/
def installStaged (d : Device) (remote : String) (reinstall : Bool) :
    Desk D (Except Error Unit) := do
  d.packageTarget.installStaged remote reinstall (← installLimit)

/-- Deletes a staged package. -/
def removeStaged (d : Device) (remote : String) : Desk D (Except Error Unit) := do
  d.packageTarget.removeStaged remote (← installLimit)

/-! ## Forwards and reboots -/

/-- Forwards a local TCP port to a port on the device. -/
def createForward (d : Device) (localPort remotePort : UInt16) : Desk D (Except Error Unit) :=
  d.ifOnline .error (.reach (Host.createForward d.serial localPort remotePort))

/-- Removes the forward at a local TCP port. -/
def removeForward (d : Device) (localPort : UInt16) : Desk D (Except Error Unit) :=
  d.ifOnline .error (.reach (Host.removeForward d.serial localPort))

/-- The forwards to the device. -/
def forwards (d : Device) : Desk D (Except Error (List ForwardRule)) :=
  (·.map (·.filter (·.serial == d.serial))) <$> Desk.reach Host.forwards

/-- Restarts the device, perhaps into a named mode. -/
def reboot (d : Device) (mode : Option String) : Desk D (Except Error Unit) :=
  d.ifOnline .error (.reach (Host.reboot d.serial mode))

end Device

end DebugBridge
