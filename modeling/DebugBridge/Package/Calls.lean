import DebugBridge.Package.Install

/-!
# The calls that an installation makes

Any target can be `logged`: what it is asked to do and what came of it is written down. Of an
installation this log tells everything, since it goes one of three ways (`Installation`).
-/

namespace DebugBridge

/-- A call to a package target, with what came of it. -/
inductive TargetCall
  | push (path remote : String) (answer : Except Error Unit)
  | shell (command : String) (limit : Duration) (run : CommandRun)

/-- The command that a call runs, if it runs one. -/
def TargetCall.command? : TargetCall → Option String
  | .push _ _ _ => none
  | .shell command _ _ => some command

namespace PackageTarget

variable {m : Type → Type} [Monad m]

/-- The same target, with a log of its calls. -/
def logged (t : PackageTarget m) : PackageTarget (StateT (List TargetCall) m) where
  push path remote := fun log =>
    (fun answer => (answer, log ++ [.push path remote answer])) <$> t.push path remote
  shell command limit := fun log =>
    (fun run => (run, log ++ [.shell command limit run])) <$> t.shell command limit

end PackageTarget

open PackageTarget in
/-- The ways in which an installation can go: its calls, and what came of it. -/
inductive Installation (path : String) (reinstall : Bool) (limit : Duration) :
    List TargetCall → Except Error Unit → Prop
  /-- The path names no file. Nothing is done. -/
  | unnamed (hname : lastComponent? path = none) :
    Installation path reinstall limit [] (.error (.installFailed s!"Invalid package path: {path}"))
  /-- The file could not be pushed. Nothing else is done. -/
  | unpushed {name : String} (hname : lastComponent? path = some name) (cause : Error) :
    Installation path reinstall limit
      [.push path s!"{stagingDirectory}/{name}" (.error cause)]
      (.error (.installFailed ("Unable to upload file: " ++ cause.message)))
  /-- The file was pushed. The package manager is run and the file is deleted; only the run of the
  package manager decides what came of it. -/
  | managed {name : String} (hname : lastComponent? path = some name) (run removal : CommandRun) :
    Installation path reinstall limit
      [.push path s!"{stagingDirectory}/{name}" (.ok ()),
        .shell (installCommand s!"{stagingDirectory}/{name}" reinstall) limit run,
        .shell (removeCommand s!"{stagingDirectory}/{name}") limit removal]
      (outcome run)

end DebugBridge
