import DebugBridge.Sync.Files

/-!
# How the answer to a request for a directory can go

Whatever bytes are received, they begin with the packets of some entries, each complete and with a name
within the limit, and then comes something that ends the answer: the packet that is meant to, an entry
whose name is too long, a packet that should not be there, or the end of the bytes in the middle of a
packet. `DirectoryEnd` lists all that can come, and `DirectoryAnswers` puts the entries in front of it.
-/

namespace DebugBridge.Sync

/-- What stands before the name of an entry: letters, and four words, the last of which is the length of
the name. -/
def entryHeader (id : PacketId) (mode size mtime n : UInt32) : Bytes :=
  id.letters ++ [mode, size, mtime, n].flatMap Bytes.ofWord

/-- An entry of a directory as it is sent. -/
structure SentEntry where
  /-- Kind and permissions. -/
  mode : UInt32
  /-- Length in bytes. -/
  size : UInt32
  /-- Time of the last change. -/
  mtime : UInt32
  /-- The bytes of its name, which need not be a text. -/
  name : Bytes
  deriving Repr, DecidableEq

/-- The packet of an entry. -/
def SentEntry.packet (e : SentEntry) : Bytes :=
  entryHeader .dent e.mode e.size e.mtime (UInt32.ofNat e.name.length) ++ e.name

/-- The file that an entry tells of; the directory itself and the one above it are left out. -/
def SentEntry.file? (e : SentEntry) : Option RemoteFile :=
  listed? (Utf8.lossy e.name) e.mode e.size e.mtime

/-- An answer that breaks off: of so many bytes that are read at once, not all are there. -/
inductive CutEntry : Bytes → Nat → Prop
  | header {b : Bytes} (h : b.length < 20) : CutEntry b 20
  /-- The name of an entry is not complete. -/
  | name {mode size mtime n : UInt32} {name : Bytes} (h : n.toNat ≤ pathLimit)
    (hcut : name.length < n.toNat) :
    CutEntry (entryHeader .dent mode size mtime n ++ name) n.toNat

/-- The error if the bytes end within `size` bytes that are read at once. -/
def cutOff (ending : Ending) (size : Nat) : Error :=
  match ending with
  | .closed => .protocol s!"stream ended after fewer than {size} bytes"
  | .silent => .timeout "reading from adb daemon"

/-- What comes after the entries of an answer, and what follows from it: the bytes that are left, or an
error; `ending` comes after the last byte. -/
inductive DirectoryEnd (ending : Ending) : Bytes → Except Error Bytes → Prop
  /-- The packet that is meant to end the answer. Its words may be anything. -/
  | done {words : Bytes} (h : words.length = 16) (more : Bytes) :
    DirectoryEnd ending (PacketId.done.letters ++ words ++ more) (.ok more)
  /-- An entry whose name is over the limit. -/
  | overlong {mode size mtime n : UInt32} (h : pathLimit < n.toNat) (more : Bytes) :
    DirectoryEnd ending (entryHeader .dent mode size mtime n ++ more)
      (.error (.protocol
        s!"LIST entry name of {n.toNat} bytes exceeds the {pathLimit} byte limit"))
  /-- A packet of another kind. -/
  | unknown {letters words : Bytes} (hletters : letters.length = 4)
    (hdone : letters ≠ PacketId.done.letters) (hdent : letters ≠ PacketId.dent.letters)
    (hwords : words.length = 16) (more : Bytes) :
    DirectoryEnd ending (letters ++ words ++ more)
      (.error (.protocol ("unexpected LIST packet " ++ shownLetters letters)))
  | cut {b : Bytes} {n : Nat} (h : CutEntry b n) : DirectoryEnd ending b (.error (cutOff ending n))

/-- The answer in what is received: its entries, and what follows from what comes after them. -/
def DirectoryAnswers (s : Stream) (sent : List SentEntry) (r : Except Error Bytes) : Prop :=
  (∀ e ∈ sent, e.name.length ≤ pathLimit) ∧
    ∃ rest, s.bytes = sent.flatMap SentEntry.packet ++ rest ∧ DirectoryEnd s.ending rest r

/-- What is received after a request for a directory. -/
def directoryAnswer {D S : Type} [Daemon D S] (remote : String) (w : Wire D S) : Stream :=
  let r := Daemon.receive w.daemon w.session (pathRequest .list remote)
  w.stream.extend r.answer r.ending

end DebugBridge.Sync
