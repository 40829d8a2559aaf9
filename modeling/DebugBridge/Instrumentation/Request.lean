import DebugBridge.Dict
import DebugBridge.Duration
import DebugBridge.Text.Lines

/-!
# Requests for test runs

A request names a test package, perhaps a runner, and arguments for it. Its command lists the
arguments in the order of their names.
-/

namespace DebugBridge

/-- A class of tests by how long they take. -/
inductive TestSize
  | small
  | medium
  | large
  deriving Repr, DecidableEq, Inhabited

/-- The word for a test size. -/
def TestSize.text : TestSize → String
  | .small => "small"
  | .medium => "medium"
  | .large => "large"

/-- A request for a test run. -/
structure RunRequest where
  /-- The test package. -/
  package : String
  /-- The runner, if not the usual one. -/
  runner : Option String
  /-- The runner's arguments by name. -/
  args : Dict String
  /-- How long the run may be silent; zero allows any silence. -/
  limit : Duration
  deriving DecidableEq, Inhabited

namespace RunRequest

/-- The usual runner. -/
def usualRunner : String := "android.test.InstrumentationTestRunner"

/-- A request without arguments. -/
def new (package : String) (runner : Option String) : RunRequest := 
  ⟨package, runner, .empty, .zero⟩

/-- The runner's name. -/
def runnerName (r : RunRequest) : String := r.runner.getD usualRunner

/-- Sets an argument. -/
def setArg (r : RunRequest) (name value : String) : RunRequest :=
  { r with args := r.args.insert name value }

/-- Removes an argument. -/
def removeArg (r : RunRequest) (name : String) : RunRequest := { r with args := r.args.erase name }

/-- Sets an argument that is true or false. -/
def setFlag (r : RunRequest) (name : String) (value : Bool) : RunRequest :=
  r.setArg name (if value then "true" else "false")

/-- Runs the tests of one class. -/
def setClass (r : RunRequest) (name : String) : RunRequest := r.setArg "class" name

/-- Runs the tests of several classes. -/
def setClasses (r : RunRequest) (names : List String) : RunRequest :=
  r.setArg "class" (Text.join "," names)

/-- Runs one test method. -/
def setMethod (r : RunRequest) (className method : String) : RunRequest :=
  r.setArg "class" s!"{className}#{method}"

/-- Runs the tests of one package. -/
def setTestPackage (r : RunRequest) (name : String) : RunRequest := r.setArg "package" name

/-- Lists the tests without running them. -/
def setLogOnly (r : RunRequest) (value : Bool) : RunRequest := r.setFlag "log" value

/-- Waits for a debugger. -/
def setDebug (r : RunRequest) (value : Bool) : RunRequest := r.setFlag "debug" value

/-- Measures coverage. -/
def setCoverage (r : RunRequest) (value : Bool) : RunRequest := r.setFlag "coverage" value

/-- Runs the tests of one size. -/
def setSize (r : RunRequest) (size : TestSize) : RunRequest := r.setArg "size" size.text

/-- Limits the silence of the run. -/
def setLimit (r : RunRequest) (limit : Duration) : RunRequest := { r with limit }

/-- The command that runs the tests. -/
def command (r : RunRequest) : String :=
  let args := r.args.entries.map fun (name, value) => s!" -e {name} {value}"
  "am instrument -w -r" ++ Text.join "" args ++ s!" {r.package}/" ++ r.runnerName

end RunRequest

end DebugBridge
