import DebugBridge.Bridge.Live
import DebugBridge.Device.Handle
import DebugBridge.MemoryDaemon.Basic
import DebugBridge.Wire.Relay

/-!
# Live bridges with a daemon in memory

When the lists of a daemon in memory are set, every open stream that tracks them receives them. A
relay stands between the bridge and the daemon.
-/

namespace DebugBridge

/-- A bridge whose daemon is in memory, behind a relay. -/
abbrev MemoryLive := Live (Relay MemoryDaemon) (RelaySession MemorySession)

namespace MemoryLive

/-- Changes the daemon. -/
def setDaemon (l : MemoryLive) (f : MemoryDaemon → MemoryDaemon) : MemoryLive :=
  { l with daemon := { l.daemon with daemon := f l.daemon.daemon } }

/-- Sends a frame on the streams that track something. -/
def push (l : MemoryLive) (what : Service) (frame : Bytes) : MemoryLive :=
  { l with streams := l.streams.map fun s =>
      if s.session.session.service = what then
        { s with stream := s.stream.extend frame .silent }
      else s }

/-- Sets the devices. -/
def setDevices (l : MemoryLive) (devices : List (String × String)) : MemoryLive :=
  let l := l.setDaemon fun d => { d with devices }
  l.push .devices l.daemon.daemon.deviceFrame

/-- Sets the processes of a device. -/
def setProcesses (l : MemoryLive) (serial : String) (pids : List UInt32) : MemoryLive :=
  let l := l.setDaemon fun d => { d with processes := d.processes.insert serial pids }
  l.push (.processes serial) (l.daemon.daemon.processFrame serial)

/-- Closes some streams. -/
def close (l : MemoryLive) (which : OpenStream (RelaySession MemorySession) → Bool) : MemoryLive :=
  { l with streams := l.streams.map fun s =>
      if which s then { s with stream := s.stream.extend [] .closed } else s }

/-- Closes the streams that track devices. -/
def dropTracking (l : MemoryLive) : MemoryLive :=
  l.close fun s => s.session.session.service == .devices

/-- Closes the streams whose latest request is this one. -/
def cut (l : MemoryLive) (request : String) : MemoryLive :=
  l.close fun s => s.session.last == some request

/-- The requests that passed the relay since the record was last taken. -/
def takeRequests (l : MemoryLive) : List String × MemoryLive :=
  (l.daemon.requests, { l with daemon := { l.daemon with requests := [] } })

/-- Works with device handles; none if the work waits without end. -/
def work (l : MemoryLive) (files : LocalFiles) (installLimit : Duration)
    (op : Desk (Relay MemoryDaemon) α) : Option α × LocalFiles × MemoryLive :=
  let site : Site (Relay MemoryDaemon) :=
    ⟨l.bridge.system.shared.registry, l.daemon, files, installLimit⟩
  let (a, site) := op site
  (a, site.files, { l with daemon := site.daemon })

end MemoryLive

end DebugBridge
