/-!
# Remote files

What the sync service tells about a remote file. The upper bits of the mode are the kind of file, the
lower twelve its permissions.
-/

namespace DebugBridge

/-- A remote file as listed. -/
structure RemoteFile where
  /-- The last component of its path. -/
  name : String
  /-- Kind and permissions. -/
  mode : UInt32
  /-- Length in bytes. -/
  size : UInt32
  /-- Time of the last change, in seconds since 1970. -/
  mtime : UInt32
  deriving Repr, DecidableEq, Inhabited

namespace RemoteFile

/-- The bits of a mode that tell the kind. -/
def kindMask : UInt32 := 0o170000

/-- The kind of a directory. -/
def directoryKind : UInt32 := 0o040000

/-- The kind of a regular file. -/
def regularKind : UInt32 := 0o100000

/-- The kind of a symbolic link. -/
def linkKind : UInt32 := 0o120000

/-- The bits of a mode that tell the permissions. -/
def permissionMask : UInt32 := 0o7777

/-- Is it a directory? -/
def isDirectory (f : RemoteFile) : Bool := f.mode &&& kindMask == directoryKind

/-- Is it a regular file? -/
def isRegular (f : RemoteFile) : Bool := f.mode &&& kindMask == regularKind

/-- Is it a symbolic link? -/
def isLink (f : RemoteFile) : Bool := f.mode &&& kindMask == linkKind

/-- Its permissions. -/
def permissions (f : RemoteFile) : UInt32 := f.mode &&& permissionMask

end RemoteFile

end DebugBridge
