import DebugBridge.Proofs.Toml.Documents
import DebugBridge.Settings.Document

/-!
# Settings are read back from their document

A document is written exactly for the settings whose numbers of milliseconds a document can hold
(`Storable`), and from its table the same settings are read: a number of attempts that is not set is
left out, and nothing stands for it then.

Results: `sections?_eq`, `fits_of_mem_sections`, `ofToml?_sections`.
-/

namespace DebugBridge.Settings

/-- The numbers of milliseconds. -/
def millis (s : Settings) : List UInt64 :=
  [s.timeouts.connect, s.timeouts.io, s.timeouts.shellInactivity, s.timeouts.install,
    s.monitor.initialBackoff, s.monitor.maxBackoff]

/-- Can a document hold the settings? Its numbers have 64 bits with sign, so that `2 ^ 63 - 1` is the
largest. -/
def Storable (s : Settings) : Prop := ∀ n ∈ s.millis, n.toNat ≤ 0x7fffffffffffffff

instance (s : Settings) : Decidable s.Storable := inferInstanceAs (Decidable (∀ _ ∈ _, _))

/-! ## The sections -/

/-- The section about waits, if a document can hold it. -/
def timeoutSection (s : TimeoutSettings) : Toml.Section :=
  ⟨"timeouts",
    [("connect_ms", .integer s.connect.toNat), ("io_ms", .integer s.io.toNat),
      ("shell_inactivity_ms", .integer s.shellInactivity.toNat),
      ("install_ms", .integer s.install.toNat)]⟩

/-- The section about the monitor, if a document can hold it. -/
def monitorSection (s : MonitorSettings) : Toml.Section :=
  ⟨"monitor",
    [("track_clients", .boolean s.trackClients),
      ("query_device_info", .boolean s.queryDeviceInfo),
      ("query_avd_name", .boolean s.queryAvdName),
      ("jdwp_handshake", .boolean s.jdwpHandshake),
      ("debug_port_base", .integer s.debugPortBase.toNat),
      ("initial_backoff_ms", .integer s.initialBackoff.toNat),
      ("max_backoff_ms", .integer s.maxBackoff.toNat)] ++
    (s.maxReconnectAttempts.map fun n => ("max_reconnect_attempts", Scalar.integer n.toNat)).toList⟩

/-- The sections of a document. -/
def sections (s : Settings) : List Toml.Section :=
  [daemonSection s.daemon, timeoutSection s.timeouts, monitorSection s.monitor]

theorem writable?_eq (n : UInt64) :
    writable? n = if n.toNat ≤ 0x7fffffffffffffff then some (.integer n.toNat) else none := by
  have hmax : Int64.maxValue.toInt = ((0x7fffffffffffffff : Nat) : Int) := by decide
  rw [writable?, hmax]
  simp only [Int.ofNat_le]

theorem le_of_writable? {n : UInt64} {v : Scalar} (h : writable? n = some v) :
    n.toNat ≤ 0x7fffffffffffffff := by
  refine Decidable.byContradiction fun hlarge => ?_
  rw [writable?_eq, if_neg hlarge] at h
  cases h

/-- There are sections exactly for what a document can hold. -/
theorem sections?_eq (s : Settings) :
    sections? s = if s.Storable then some (sections s) else none := by
  by_cases h : s.Storable
  · have hw (n : UInt64) (hn : n ∈ s.millis) : writable? n = some (.integer n.toNat) := by
      rw [writable?_eq, if_pos (h n hn)]
    simp only [millis, List.forall_mem_cons] at hw
    obtain ⟨hconnect, hio, hshell, hinstall, hfirst, hlongest, -⟩ := hw
    rw [if_pos h, sections?, timeoutSection?, monitorSection?]
    simp only [hconnect, hio, hshell, hinstall, hfirst, hlongest]
    cases hattempts : s.monitor.maxReconnectAttempts <;>
      simp [sections, timeoutSection, monitorSection, hattempts]
  · rw [if_neg h]
    cases hsections : sections? s with
    | none => rfl
    | some ss =>
      refine absurd ?_ h
      simp only [sections?, timeoutSection?, monitorSection?, Option.bind_eq_bind, Option.pure_def,
        Option.bind_eq_some_iff] at hsections
      obtain ⟨_, ⟨_, hconnect, _, hio, _, hshell, _, hinstall, -⟩, _, ⟨_, hfirst, _, hlongest, -⟩, -⟩ :=
        hsections
      simp only [Storable, millis, List.forall_mem_cons]
      exact ⟨le_of_writable? hconnect, le_of_writable? hio, le_of_writable? hshell,
        le_of_writable? hinstall, le_of_writable? hfirst, le_of_writable? hlongest, nofun⟩

theorem isBare_of_all (name : String) (h : (name.toList ≠ [] ∧ name.toList.all Toml.isBare = true)) :
    Toml.IsBare name :=
  ⟨h.1, List.all_eq_true.1 h.2⟩

/-- The sections can be written so that they are read back. -/
theorem fits_of_mem_sections {s : Settings} (h : s.Storable) : ∀ g ∈ s.sections, g.Fits := by
  have hmax : Int64.maxValue.toInt = ((0x7fffffffffffffff : Nat) : Int) := by decide
  have hfits {n : Nat} (hn : n ≤ 0x7fffffffffffffff) : Toml.Fits (.integer n) :=
    ⟨Int.natCast_nonneg n, by rw [hmax]; exact Int.ofNat_le.2 hn⟩
  have hport (n : UInt16) : Toml.Fits (.integer n.toNat) :=
    hfits (Nat.le_trans (Nat.le_of_lt n.toNat_lt) (by decide))
  have hword (n : UInt32) : Toml.Fits (.integer n.toNat) :=
    hfits (Nat.le_trans (Nat.le_of_lt n.toNat_lt) (by decide))
  simp only [Storable, millis, List.forall_mem_cons] at h
  obtain ⟨hconnect, hio, hshell, hinstall, hfirst, hlongest, -⟩ := h
  simp only [sections, List.forall_mem_cons]
  refine ⟨⟨isBare_of_all "daemon" (by decide), ?_, by simp [daemonSection]⟩,
    ⟨isBare_of_all "timeouts" (by decide), ?_, by simp [timeoutSection]⟩,
    ⟨isBare_of_all "monitor" (by decide), ?_, ?_⟩, nofun⟩
  · simp only [daemonSection, List.forall_mem_cons]
    exact ⟨⟨isBare_of_all _ (by decide), trivial⟩, ⟨isBare_of_all _ (by decide), hport _⟩, nofun⟩
  · simp only [timeoutSection, List.forall_mem_cons]
    exact ⟨⟨isBare_of_all _ (by decide), hfits hconnect⟩, ⟨isBare_of_all _ (by decide), hfits hio⟩,
      ⟨isBare_of_all _ (by decide), hfits hshell⟩, ⟨isBare_of_all _ (by decide), hfits hinstall⟩, nofun⟩
  · simp only [monitorSection, List.forall_mem_append, List.forall_mem_cons]
    refine ⟨⟨⟨isBare_of_all _ (by decide), trivial⟩, ⟨isBare_of_all _ (by decide), trivial⟩,
      ⟨isBare_of_all _ (by decide), trivial⟩, ⟨isBare_of_all _ (by decide), trivial⟩,
      ⟨isBare_of_all _ (by decide), hport _⟩, ⟨isBare_of_all _ (by decide), hfits hfirst⟩,
      ⟨isBare_of_all _ (by decide), hfits hlongest⟩, nofun⟩, ?_⟩
    cases s.monitor.maxReconnectAttempts with
    | none => nofun
    | some n =>
      exact List.forall_mem_singleton.2 ⟨isBare_of_all "max_reconnect_attempts" (by decide), hword n⟩
  · cases hattempts : s.monitor.maxReconnectAttempts <;>
      simp [monitorSection, hattempts]

/-! ## Reading -/

theorem below?_natCast {bound n : Nat} (h : n < bound) :
    below? bound (.scalar (.integer n)) = some n := by
  rw [below?, if_pos ⟨Int.natCast_nonneg n, Int.ofNat_lt.2 h⟩, Int.toNat_natCast]

theorem port?_toNat (n : UInt16) : port? (.scalar (.integer n.toNat)) = some n := by
  rw [port?, below?_natCast n.toNat_lt, Option.map_some, UInt16.ofNat_toNat]

theorem word?_toNat (n : UInt32) : word? (.scalar (.integer n.toNat)) = some n := by
  rw [word?, below?_natCast n.toNat_lt, Option.map_some, UInt32.ofNat_toNat]

theorem millis?_toNat (n : UInt64) : millis? (.scalar (.integer n.toNat)) = some n := by
  rw [millis?, below?_natCast n.toNat_lt, Option.map_some, UInt64.ofNat_toNat]

/-- The table of a section. -/
def tableOf (g : Toml.Section) : Toml := .table (g.fields.map fun f => (f.1, .scalar f.2))

theorem fieldOr_of_read {α : Type} {read : Toml → Option α} {standard a : α} {v : Toml}
    (h : read v = some a) : fieldOr read standard (some v) = some a := h

theorem daemon?_of_fields {standard s : DaemonSettings} {v host port : Toml}
    (hv : fields? ["host", "port"] v = some [some host, some port])
    (hhost : text? host = some s.host) (hport : port? port = some s.port) :
    daemon? standard v = some s := by
  simp only [daemon?, hv, Option.bind_eq_bind, Option.bind_some, fieldOr_of_read hhost,
    fieldOr_of_read hport]
  rfl

theorem timeouts?_of_fields {standard s : TimeoutSettings} {v connect io shell install : Toml}
    (hv : fields? ["connect_ms", "io_ms", "shell_inactivity_ms", "install_ms"] v =
      some [some connect, some io, some shell, some install])
    (hconnect : millis? connect = some s.connect) (hio : millis? io = some s.io)
    (hshell : millis? shell = some s.shellInactivity) (hinstall : millis? install = some s.install) :
    timeouts? standard v = some s := by
  simp only [timeouts?, hv, Option.bind_eq_bind, Option.bind_some, fieldOr_of_read hconnect,
    fieldOr_of_read hio, fieldOr_of_read hshell, fieldOr_of_read hinstall]
  rfl

theorem monitor?_of_fields {standard s : MonitorSettings}
    {v track info avd jdwp base first longest : Toml} {attempts : Option Toml}
    (hv : fields? ["track_clients", "query_device_info", "query_avd_name", "jdwp_handshake",
      "debug_port_base", "initial_backoff_ms", "max_backoff_ms", "max_reconnect_attempts"] v =
      some [some track, some info, some avd, some jdwp, some base, some first, some longest, attempts])
    (htrack : flag? track = some s.trackClients) (hinfo : flag? info = some s.queryDeviceInfo)
    (havd : flag? avd = some s.queryAvdName) (hjdwp : flag? jdwp = some s.jdwpHandshake)
    (hbase : port? base = some s.debugPortBase) (hfirst : millis? first = some s.initialBackoff)
    (hlongest : millis? longest = some s.maxBackoff)
    (hattempts : fieldOr (fun v => (word? v).map some) standard.maxReconnectAttempts attempts =
      some s.maxReconnectAttempts) :
    monitor? standard v = some s := by
  simp only [monitor?, hv, Option.bind_eq_bind, Option.bind_some, fieldOr_of_read htrack,
    fieldOr_of_read hinfo, fieldOr_of_read havd, fieldOr_of_read hjdwp, fieldOr_of_read hbase,
    fieldOr_of_read hfirst, fieldOr_of_read hlongest, hattempts]
  rfl

theorem daemon?_section (standard s : DaemonSettings) :
    daemon? standard (tableOf (daemonSection s)) = some s :=
  daemon?_of_fields rfl rfl (port?_toNat s.port)

theorem timeouts?_section (standard s : TimeoutSettings) :
    timeouts? standard (tableOf (timeoutSection s)) = some s :=
  timeouts?_of_fields rfl (millis?_toNat s.connect) (millis?_toNat s.io)
    (millis?_toNat s.shellInactivity) (millis?_toNat s.install)

/-- A number of attempts that is not set is left out, so nothing may stand for it. -/
theorem monitor?_section {standard : MonitorSettings} (h : standard.maxReconnectAttempts = none)
    (s : MonitorSettings) : monitor? standard (tableOf (monitorSection s)) = some s := by
  have hread (attempts : Option UInt32) :
      fieldOr (fun v => (word? v).map some) standard.maxReconnectAttempts
        (attempts.map fun n => Toml.scalar (.integer n.toNat)) = some attempts := by
    cases attempts with
    | none => simp only [Option.map_none, fieldOr, h]
    | some n => exact fieldOr_of_read (congrArg (Option.map some) (word?_toNat n))
  have hfields : fields? ["track_clients", "query_device_info", "query_avd_name", "jdwp_handshake",
      "debug_port_base", "initial_backoff_ms", "max_backoff_ms", "max_reconnect_attempts"]
      (tableOf (monitorSection s)) =
        some [some (.scalar (.boolean s.trackClients)), some (.scalar (.boolean s.queryDeviceInfo)),
          some (.scalar (.boolean s.queryAvdName)), some (.scalar (.boolean s.jdwpHandshake)),
          some (.scalar (.integer s.debugPortBase.toNat)),
          some (.scalar (.integer s.initialBackoff.toNat)),
          some (.scalar (.integer s.maxBackoff.toNat)),
          s.maxReconnectAttempts.map fun n => Toml.scalar (.integer n.toNat)] := by
    obtain ⟨track, info, avd, jdwp, base, first, longest, attempts⟩ := s
    cases attempts <;> rfl
  exact monitor?_of_fields hfields rfl rfl rfl rfl (port?_toNat _) (millis?_toNat _) (millis?_toNat _)
    (hread _)

/-- The settings of three tables. -/
theorem ofToml?_of_fields {s : Settings} {v daemon timeouts monitor : Toml}
    (hv : fields? ["daemon", "timeouts", "monitor"] v = some [some daemon, some timeouts, some monitor])
    (hdaemon : daemon? standard.daemon daemon = some s.daemon)
    (htimeouts : timeouts? standard.timeouts timeouts = some s.timeouts)
    (hmonitor : monitor? standard.monitor monitor = some s.monitor) : ofToml? v = some s := by
  simp only [ofToml?, hv, Option.bind_eq_bind, Option.bind_some, fieldOr_of_read hdaemon,
    fieldOr_of_read htimeouts, fieldOr_of_read hmonitor]
  rfl

/-- **The same settings are read** from the table of their sections. -/
theorem ofToml?_sections (s : Settings) :
    ofToml? (.table (s.sections.map fun g => (g.name, tableOf g))) = some s :=
  ofToml?_of_fields rfl (daemon?_section _ _) (timeouts?_section _ _) (monitor?_section rfl _)

end DebugBridge.Settings
