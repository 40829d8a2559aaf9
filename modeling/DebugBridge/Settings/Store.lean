import DebugBridge.LocalFiles
import DebugBridge.Settings.Document
import DebugBridge.Text.Utf8

/-!
# Settings in files

Settings are kept in a file as a TOML document. A file that cannot be read, or holds no settings,
counts as one that sets nothing. To save, the document is written beside the file and then moved to
its place, so that a failure leaves the file as it was.
-/

namespace DebugBridge.Settings

/-- The settings that bytes hold, if they hold any. -/
def ofBytes? (b : Bytes) : Option Settings :=
  match Utf8.text? b with
  | .ok text => (Toml.parse text).bind ofToml?
  | .error _ => none

/-- The settings in a file; the environment may replace the daemon's port. -/
def load (fs : LocalFiles) (path : String) (portVariable : Option String) : Settings :=
  let stored := match fs.read path with
    | .ok b => (ofBytes? b).getD standard
    | .error _ => standard
  stored.withEnvironment portVariable

/-- The first lines of a saved file. -/
def preamble : String := "# adbridge configuration\n\n"

/-- The document for settings, unless a number is too large for one. -/
def document? (s : Settings) : Option String :=
  (sections? s).map fun ss => preamble ++ String.ofList (Toml.writeSections ss)

/-- The path of the file in which a document is written before it is moved to its place. -/
def draftPath (path : String) : String := LocalFiles.withEnding path "toml.tmp"

/-- Saves settings in a file, whose directory is made if need be. -/
def save (fs : LocalFiles) (path : String) (s : Settings) : Except Error Unit × LocalFiles :=
  let refused (step : String) (e : FileError) : Except Error Unit :=
    .error (.config (s!"Failed to {step}: " ++ e.message))
  match fs.makeDirectories (LocalFiles.above path) with
  | (.error e, fs) => (refused "create config dir" e, fs)
  | (.ok (), fs) =>
    match document? s with
    | none =>
      (.error (.config "Failed to serialize settings: out-of-range value for u64 type"), fs)
    | some text =>
      match fs.write (draftPath path) (Bytes.ofString text) with
      | .error e => (refused "write temp file" e, fs)
      | .ok fs =>
        match fs.rename (draftPath path) path with
        | .error e => (refused "rename temp file" e, fs)
        | .ok fs => (.ok (), fs)

end DebugBridge.Settings
