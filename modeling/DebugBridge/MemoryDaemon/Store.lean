import DebugBridge.Bytes
import DebugBridge.Dict
import DebugBridge.Sync.Entry
import DebugBridge.Text.Lines

/-!
# Files kept in memory

Remote files by their path. There are no directories of their own: a path counts as a directory if
some file lies below it.
-/

namespace DebugBridge

/-- A remote file. -/
structure RemoteContent where
  /-- Its contents. -/
  data : Bytes
  /-- Kind and permissions. -/
  mode : UInt32
  /-- Time of the last change, in seconds since 1970. -/
  mtime : UInt32
  deriving Repr, DecidableEq, Inhabited

/-- Remote files by path. -/
abbrev RemoteStore := Dict RemoteContent

/-- The length of contents as the word that travels. -/
def RemoteContent.size (c : RemoteContent) : UInt32 := UInt32.ofNat c.data.length

namespace RemoteStore

/-- The kind and permissions of every directory. -/
def directoryMode : UInt32 := 0o040755

/-- The length told for every directory. -/
def directorySize : UInt32 := 4096

/-- What the paths below a directory begin with. -/
def directoryLead (path : String) : List Char :=
  (path.toList.reverse.dropWhile (· == '/')).reverse ++ ['/']

/-- Kind and permissions, length, and time of what stands at a path; all zero if nothing does. -/
def stat (store : RemoteStore) (path : String) : UInt32 × UInt32 × UInt32 :=
  match store.get? path with
  | some c => (c.mode, c.size, c.mtime)
  | none =>
    if store.entries.any fun e => (directoryLead path).isPrefixOf e.1.toList then
      (directoryMode, directorySize, 0)
    else (0, 0, 0)

/-- A file with the name that it has in a directory, if it is right below the directory. -/
def nameIn? (path : String) (e : String × RemoteContent) : Option (String × RemoteContent) :=
  match Text.after? (directoryLead path) e.1.toList with
  | some name => if name.contains '/' then none else some (String.ofList name, e.2)
  | none => none

/-- The files right below a directory, by name. -/
def children (store : RemoteStore) (path : String) : List (String × RemoteContent) :=
  store.entries.filterMap (nameIn? path)

end RemoteStore

end DebugBridge
