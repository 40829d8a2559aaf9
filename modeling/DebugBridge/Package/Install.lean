import DebugBridge.Error
import DebugBridge.Package.Verdict

/-!
# Installing packages

A package is pushed to a staging directory on the device, installed from there, and the pushed copy
is removed whatever came of it. The policy is stated for any `PackageTarget`, which may be a device
or anything else that can take a file and run a command.
-/

namespace DebugBridge

/-- Where packages are staged. -/
def stagingDirectory : String := "/data/local/tmp"

/-- What became of a command: the batches of lines that it printed, and how it ended. -/
structure CommandRun where
  /-- The batches of output. -/
  batches : List (List String)
  /-- How it ended. -/
  result : Except Error Unit

/-- Something that packages can be installed on, with effects `m`. -/
structure PackageTarget (m : Type → Type) where
  /-- Copies a local file to a remote path. -/
  push : String → String → m (Except Error Unit)
  /-- Runs a command that may be silent for so long. -/
  shell : String → Duration → m CommandRun

/-- The last component of a path. Empty components and `.` do not count; a path without another one,
or whose last one is `..`, has none. -/
def lastComponent? (path : String) : Option String :=
  let parts := ((path.toList.splitOn '/').filter fun p => ! p.isEmpty && p != ['.'])
  match parts.getLast? with
  | some p => if p = ['.', '.'] then none else some (String.ofList p)
  | none => none

/-- Where a local package is staged. -/
def stagedPath (path : String) : Except Error String :=
  match lastComponent? path with
  | some name => .ok s!"{stagingDirectory}/{name}"
  | none => .error (.installFailed s!"Invalid package path: {path}")

namespace PackageTarget

variable {m : Type → Type} [Monad m] (t : PackageTarget m)

/-- The command that installs a staged package. -/
def installCommand (remote : String) (reinstall : Bool) : String :=
  if reinstall then s!"pm install -r \"{remote}\"" else s!"pm install \"{remote}\""

/-- The command that removes an installed package. -/
def uninstallCommand (package : String) : String := s!"pm uninstall {package}"

/-- The command that deletes a staged package. -/
def removeCommand (remote : String) : String := s!"rm {remote}"

/-- What a run of the package manager means. -/
def outcome (run : CommandRun) : Except Error Unit :=
  match run.result with
  | .error e => .error (.installFailed e.message)
  | .ok () =>
    match (Receiver.verdict.acceptAll Verdict.none run.batches).failure with
    | some reason => .error (.installFailed reason)
    | none => .ok ()

/-- Runs the package manager. -/
def manage (command : String) (limit : Duration) : m (Except Error Unit) :=
  outcome <$> t.shell command limit

/-- Pushes a package to the staging directory and tells where it is. -/
def stage (path : String) : m (Except Error String) :=
  match stagedPath path with
  | .error e => pure (.error e)
  | .ok remote => do
    match ← t.push path remote with
    | .error e => pure (.error (.installFailed ("Unable to upload file: " ++ e.message)))
    | .ok () => pure (.ok remote)

/-- Installs a staged package. -/
def installStaged (remote : String) (reinstall : Bool) (limit : Duration) :
    m (Except Error Unit) :=
  t.manage (installCommand remote reinstall) limit

/-- Removes an installed package. -/
def uninstall (package : String) (limit : Duration) : m (Except Error Unit) :=
  t.manage (uninstallCommand package) limit

/-- Deletes a staged package. -/
def removeStaged (remote : String) (limit : Duration) : m (Except Error Unit) := do
  let run ← t.shell (removeCommand remote) limit
  match run.result with
  | .ok () => pure (.ok ())
  | .error e => pure (.error (.installFailed (s!"Failed to delete {remote}: " ++ e.message)))

/-- Stages a package, installs it, and deletes the staged copy. What comes of the deletion does not
matter. -/
def install (path : String) (reinstall : Bool) (limit : Duration) : m (Except Error Unit) := do
  match ← t.stage path with
  | .error e => pure (.error e)
  | .ok remote =>
    let result ← t.installStaged remote reinstall limit
    let _ ← t.removeStaged remote limit
    pure result

end PackageTarget

end DebugBridge
