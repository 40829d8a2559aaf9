import DebugBridge.Device.Handle

/-!
# Operations on devices

The operations of a handle that may open a connection to the daemon, as values, so that what holds of
all of them can be stated once.
-/

namespace DebugBridge

/-- An operation on a device, with what it is given. -/
inductive DeviceOperation : Type 1
  | shell {σ : Type} (command : String) (limit : Duration) (r : Receiver σ) (s : σ)
  | openSession
  | push (path remote : String)
  | pull (remote path : String)
  | install (path : String) (reinstall : Bool)
  | uninstall (package : String)
  | stagePackage (path : String)
  | installStaged (remote : String) (reinstall : Bool)
  | removeStaged (remote : String)
  | createForward (localPort remotePort : UInt16)
  | removeForward (localPort : UInt16)
  | forwards
  | reboot (mode : Option String)

namespace DeviceOperation

/-- Is the operation about packages? -/
def isAboutPackages : DeviceOperation → Bool
  | .install _ _ | .uninstall _ | .stagePackage _ | .installStaged _ _ | .removeStaged _ => true
  | _ => false

/-- Does the operation look the device up before it talks to the daemon? -/
def looksUp : DeviceOperation → Bool
  | .forwards => false
  | _ => true

/-- The command that an operation gives to the package manager, if that is all it does. -/
def managerCommand? : DeviceOperation → Option String
  | .installStaged remote reinstall => some (PackageTarget.installCommand remote reinstall)
  | .uninstall package => some (PackageTarget.uninstallCommand package)
  | _ => none

/-- The error of staging a package on a device to which nothing can be pushed, `cause` telling why. A
path that names no file is noticed first. -/
def unstaged (path : String) (cause : Error) : Error :=
  match stagedPath path with
  | .error e => e
  | .ok _ => .installFailed ("Unable to upload file: " ++ cause.message)

/-- The error of an operation on a device that cannot be used, `cause` telling why. Operations about
packages name the step that failed. -/
def refusal (cause : Error) : DeviceOperation → Error
  | .install path _ | .stagePackage path => unstaged path cause
  | .uninstall _ | .installStaged _ _ => .installFailed cause.message
  | .removeStaged remote =>
    .installFailed (s!"Failed to delete {remote}: " ++ cause.message)
  | _ => cause

end DeviceOperation

/-- Does an operation on a device; tells only how it ended. -/
def Device.perform {D S : Type} [Daemon D S] (d : Device) :
    DeviceOperation → Desk D (Except Error Unit)
  | .shell command limit r s => (·.2) <$> d.shell command limit r s
  | .openSession => (·.map fun _ => ()) <$> d.openSession
  | .push path remote => (·.2) <$> d.push path remote
  | .pull remote path => (·.2) <$> d.pull remote path
  | .install path reinstall => d.install path reinstall
  | .uninstall package => d.uninstall package
  | .stagePackage path => (·.map fun _ => ()) <$> d.stagePackage path
  | .installStaged remote reinstall => d.installStaged remote reinstall
  | .removeStaged remote => d.removeStaged remote
  | .createForward localPort remotePort => d.createForward localPort remotePort
  | .removeForward localPort => d.removeForward localPort
  | .forwards => (·.map fun _ => ()) <$> d.forwards
  | .reboot mode => d.reboot mode

end DebugBridge
