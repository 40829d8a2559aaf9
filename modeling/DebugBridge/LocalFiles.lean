import DebugBridge.Bytes
import DebugBridge.Dict
import DebugBridge.Text.Lines

/-!
# Local files

The files below the root, and the directory a program works in. A path that begins with a slash is
walked from the root, any other one from the working directory, component by component: `.` stays,
`..` goes up and stays at the root, and empty components do not count.

A name has at most 255 bytes, and a path fewer than 4096. A longer name is refused when it is looked
up in its directory, so whatever is wrong with the path before it is noticed first.

Each operation fails as the system would, with the system's words (`FileError.message`).
-/

namespace DebugBridge

/-- Why the system refuses an operation on a file. -/
inductive FileError
  | notFound
  | deviceMissing
  /-- The path ends in `.` or `..`, which no operation on names can replace. -/
  | busy
  | exists
  | notDirectory
  | isDirectory
  | nameTooLong
  /-- The path holds a NUL, which no file name can. -/
  | invalidName
  deriving Repr, DecidableEq, Inhabited

/-- The system's words for a refusal. -/
def FileError.message : FileError → String
  | .notFound => "No such file or directory (os error 2)"
  | .deviceMissing => "No such device or address (os error 6)"
  | .busy => "Device or resource busy (os error 16)"
  | .exists => "File exists (os error 17)"
  | .notDirectory => "Not a directory (os error 20)"
  | .isDirectory => "Is a directory (os error 21)"
  | .nameTooLong => "File name too long (os error 36)"
  | .invalidName => "file name contained an unexpected NUL byte"

/-- What stands at a path. -/
inductive FileNode
  /-- A file, with the time of its last change in seconds since 1970. -/
  | file (data : Bytes) (mtime : Int)
  | directory
  /-- A socket, which cannot be opened as a file. -/
  | socket
  deriving Repr, DecidableEq, Inhabited

/-- The files below the root, by their path in normal form: the names with a slash between. The root
itself is not among them. -/
structure LocalFiles where
  /-- What stands at each path. -/
  nodes : Dict FileNode
  /-- The names that lead from the root to the directory of the paths that do not begin there. -/
  workingDirectory : List String := []
  deriving DecidableEq, Inhabited

/-- What the system tells about a file. -/
structure FileInfo where
  /-- Is it a directory? -/
  isDirectory : Bool
  /-- Its length in bytes. -/
  size : Nat
  /-- The time of its last change, in seconds since 1970. -/
  mtime : Int
  deriving Repr, DecidableEq

namespace LocalFiles

/-- No files, and the root to work in. -/
def empty : LocalFiles := { nodes := .empty }

/-- The normal form of a path, given by its names. -/
def normal (names : List String) : String := Text.join "/" names

/-- What stands at a path given by its names. -/
def node? (fs : LocalFiles) (names : List String) : Option FileNode :=
  if names.isEmpty then some .directory else fs.nodes.get? (normal names)

/-- A path, as written. -/
structure Route where
  /-- Does it begin at the root? -/
  fromRoot : Bool
  /-- Its components, without the empty ones. -/
  parts : List String
  /-- Does it end in a slash? -/
  endsInSlash : Bool
  deriving Repr, DecidableEq

/-- Takes a path apart. -/
def route (path : String) : Route :=
  let cs := path.toList
  ⟨cs.head? == some '/', ((cs.splitOn '/').filter (! ·.isEmpty)).map String.ofList,
    cs.getLast? == some '/'⟩

/-- Does a name stand for its directory, or for the one above it? -/
def isDots (name : String) : Bool := name == "." || name == ".."

/-- A component of a path, with all that stands in front of it. -/
structure Component where
  /-- What stands in front. -/
  front : String
  /-- The component itself. -/
  name : String
  deriving Repr, DecidableEq

/-- The path as far as the component goes. -/
def Component.path (c : Component) : String := c.front ++ c.name

/-- The components among the pieces between the slashes. An empty piece is none, and `.` is one only
in front. -/
def componentsAfter (front : List Char) : List (List Char) → List Component
  | [] => []
  | piece :: rest =>
    let others := componentsAfter (front ++ piece ++ ['/']) rest
    if piece.isEmpty || (piece == ['.'] && ! front.isEmpty) then others
    else ⟨String.ofList front, String.ofList piece⟩ :: others

/-- The components of a path. -/
def components (path : String) : List Component := componentsAfter [] (path.toList.splitOn '/')

/-- The paths of the directories above what a path names, the nearest first. -/
def above (path : String) : List String := (components path).dropLast.reverse.map Component.path

/-- The last component of a path, if it is a name. -/
def file? (path : String) : Option Component :=
  (components path).getLast?.filter fun c => ! isDots c.name

/-- A name before and after its last dot; a dot in front does not count. -/
def stemAndEnding (name : String) : String × Option String :=
  match Text.cutAtLast '.' name.toList with
  | some (before, after) =>
    if before.isEmpty then (name, none) else (String.ofList before, some (String.ofList after))
  | none => (name, none)

/-- The path with another ending of its file's name; a path without a name stays. The old ending is
cut off first, so `..x` is left with no name but `..`, and stays so. -/
def withEnding (path ending : String) : String :=
  let old := ((file? path).bind fun c => (stemAndEnding c.name).2).getD ""
  let bare := String.ofList (path.toList.take (path.length - old.length))
  match file? bare with
  | some c => c.front ++ (stemAndEnding c.name).1 ++ "." ++ ending
  | none => bare

/-- The most bytes of a name. -/
def longestName : Nat := 255

/-- One more than the most bytes of a path. -/
def pathSize : Nat := 4096

/-- Is the name short enough to be looked up? -/
def fits (name : String) : Bool := name.utf8ByteSize ≤ longestName

/-- Where one component leads from a directory; perhaps to nothing. -/
def step (fs : LocalFiles) (here : List String) (part : String) : Except FileError (List String) :=
  match fs.node? here with
  | some .directory =>
    if part = "." then .ok here
    else if part = ".." then .ok here.dropLast
    else if fits part then .ok (here ++ [part])
    else .error .nameTooLong
  | some _ => .error .notDirectory
  | none => .error .notFound

/-- Where a path leads from a directory by its components, each but the last of which must lead to a
directory. -/
def walk (fs : LocalFiles) (here : List String) : List String → Except FileError (List String)
  | [] => .ok here
  | part :: rest =>
    match fs.step here part with
    | .ok next => walk fs next rest
    | .error e => .error e

/-- The way that a path describes, if the system takes the path at all. -/
def accept (path : String) : Except FileError Route :=
  if path.toList.contains '\x00' then .error .invalidName
  else if path.isEmpty then .error .notFound
  else if pathSize ≤ path.utf8ByteSize then .error .nameTooLong
  else .ok (route path)

/-- The names that lead from the root to where a path begins. -/
def start (fs : LocalFiles) (r : Route) : List String := if r.fromRoot then [] else fs.workingDirectory

/-- Where a path leads. -/
def resolve (fs : LocalFiles) (path : String) : Except FileError (List String) := do
  let r ← accept path
  fs.walk [] (fs.start r ++ r.parts)

/-- The directory that holds what a path names, and the last component of the path. -/
def parent (fs : LocalFiles) (path : String) : Except FileError (List String × String) := do
  let r ← accept path
  let here ← fs.walk [] (fs.start r ++ r.parts.dropLast)
  match fs.node? here with
  | some .directory => pure (here, r.parts.getLastD ".")
  | some _ => throw .notDirectory
  | none => throw .notFound

/-- Does the last component of a path name an entry of a directory, rather than a directory already
reached? -/
def namesEntry (path : String) : Bool :=
  let r := route path
  ! r.endsInSlash && r.parts.getLast?.any (! isDots ·)

/-- What the system tells about the file at a path. -/
def info (fs : LocalFiles) (path : String) : Except FileError FileInfo := do
  let names ← fs.resolve path
  match fs.node? names with
  | none => throw .notFound
  | some .directory => pure ⟨true, 4096, 0⟩
  | some node =>
    if (route path).endsInSlash then throw .notDirectory
    match node with
    | .file data mtime => pure ⟨false, data.length, mtime⟩
    | _ => pure ⟨false, 0, 0⟩

/-- Is there a directory at a path? -/
def isDirectory (fs : LocalFiles) (path : String) : Bool :=
  match fs.info path with
  | .ok i => i.isDirectory
  | .error _ => false

/-- The contents of the file at a path. -/
def read (fs : LocalFiles) (path : String) : Except FileError Bytes := do
  let _ ← fs.info path
  let names ← fs.resolve path
  match fs.node? names with
  | some (.file data _) => pure data
  | some .directory => throw .isDirectory
  | some .socket => throw .deviceMissing
  | none => throw .notFound

/-- Replaces the contents of the file at a path, or makes it. -/
def write (fs : LocalFiles) (path : String) (data : Bytes) : Except FileError LocalFiles := do
  let (here, name) ← fs.parent path
  if ! namesEntry path then throw .isDirectory
  let names ← fs.step here name
  match fs.node? names with
  | some .directory => throw .isDirectory
  | some .socket => throw .deviceMissing
  | _ => pure { fs with nodes := fs.nodes.insert (normal names) (.file data 0) }

/-- Removes the file at a path. -/
def remove (fs : LocalFiles) (path : String) : Except FileError LocalFiles := do
  let _ ← fs.info path
  let names ← fs.resolve path
  match fs.node? names with
  | some .directory => throw .isDirectory
  | _ => pure { fs with nodes := fs.nodes.erase (normal names) }

/-- Makes a directory. -/
def makeDirectory (fs : LocalFiles) (path : String) : Except FileError LocalFiles := do
  let names ← fs.resolve path
  match fs.node? names with
  | some _ => throw .exists
  | none => pure { fs with nodes := fs.nodes.insert (normal names) .directory }

/-- Makes a directory and those above it that are missing, given by their paths, the nearest first. A
directory that is there already is no failure. What was made before a failure stays. -/
def makeDirectories (fs : LocalFiles) : List String → Except FileError Unit × LocalFiles
  | [] => (.ok (), fs)
  | path :: above =>
    let make := fun (fs : LocalFiles) =>
      match fs.makeDirectory path with
      | .ok made => (.ok (), made)
      | .error e => (if fs.isDirectory path then .ok () else .error e, fs)
    match fs.makeDirectory path with
    | .error .notFound =>
      match makeDirectories fs above with
      | (.ok (), made) => make made
      | failed => failed
    | _ => make fs

/-- Puts something at a path, in the place of what is there, and makes the directories above it. If
something stands in the way, it stays. -/
def place (fs : LocalFiles) (path : String) (node : FileNode) : LocalFiles :=
  let made := (fs.makeDirectories (above path)).2
  match made.resolve path with
  | .ok (name :: names) => { made with nodes := made.nodes.insert (normal (name :: names)) node }
  | _ => made

/-- Moves a file to another path, where it replaces a file but no directory. The directories of both
paths are found before the names in them are looked at. -/
def rename (fs : LocalFiles) (source target : String) : Except FileError LocalFiles := do
  let _ ← accept source
  let _ ← accept target
  let (here, name) ← fs.parent source
  let (there, newName) ← fs.parent target
  if isDots name || isDots newName then throw .busy
  let old ← fs.step here name
  match fs.node? old with
  | none => throw .notFound
  | some node =>
    let new ← fs.step there newName
    if node == .directory then throw .isDirectory
    if (route source).endsInSlash || (route target).endsInSlash then throw .notDirectory
    if fs.node? new == some .directory then throw .isDirectory
    pure { fs with nodes := (fs.nodes.erase (normal old)).insert (normal new) node }

end LocalFiles

end DebugBridge
