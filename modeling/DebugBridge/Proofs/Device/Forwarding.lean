import DebugBridge.Device.Forwarding
import DebugBridge.Proofs.Device.Commands
import DebugBridge.Proofs.MemoryDaemon.Forwards
import DebugBridge.Proofs.Wire.Listing

/-!
# Forwards through handles

The table of forwards between ports is kept by the daemon as text: requests name the ends of a forward as
`tcp:` and a port, and the table comes back as lines. Each call on a handle has the answer that it has on
the table, and leaves a daemon that has the forwards of the table it leads to (`perform_agree`), so a run
of calls does as well.

Results:
* `perform_agree`, `performAll_agree`, one call and a run of calls against the table;
* `forwards_of_calls`, a run with what each handle lists after it;
* `perform_create_of_long`, a forward whose request is too long is not made.
-/

namespace DebugBridge

open Text (isBlank)

/-! ## The ends of forwards -/

theorem mem_tcp {port : UInt16} {c : Char} (h : c ∈ (Host.tcp port).toList) :
    isBlank c = false ∧ c ≠ ';' := by
  have hsplit : (Host.tcp port).toList = "tcp:".toList ++ (toString port.toNat).toList :=
    String.toList_append
  rw [hsplit, List.mem_append] at h
  rcases h with h | h
  · have hall : ("tcp:".toList.all fun c => ! isBlank c && c != ';') = true := by decide
    simpa using List.all_eq_true.1 hall c h
  · have hdigit := Text.isDigit_of_mem_toString h
    refine ⟨Text.isBlank_eq_false_of_isDigit hdigit, ?_⟩
    rintro rfl
    exact absurd hdigit (by decide)

theorem tcp_inj {a b : UInt16} : Host.tcp a = Host.tcp b ↔ a = b := by
  refine ⟨fun h => ?_, fun h => h ▸ rfl⟩
  have htext : "tcp:" ++ toString a.toNat = "tcp:" ++ toString b.toNat := h
  -- The port is read back from its digits.
  rw [String.append_right_inj] at htext
  have hnumber := Text.decimal?_toString a.toNat
  rw [htext, Text.decimal?_toString] at hnumber
  exact UInt16.toNat_inj.1 (Option.some.inj hnumber).symm

theorem tcp_beq (a b : UInt16) : (Host.tcp a == Host.tcp b) = (a == b) := by
  rw [Bool.eq_iff_iff, beq_iff_eq, beq_iff_eq, tcp_inj]

/-! ## The table as rules -/

namespace PortTable

variable (table : PortTable) (serial : String) (localPort : UInt16)

theorem create_rules (f : PortForward) :
    ForwardTable.create (table.map PortForward.rule) f.rule =
      (table.perform (.create f)).2.map PortForward.rule := by
  have hother : (fun r : ForwardRule => r.localSpec != f.rule.localSpec) ∘ PortForward.rule =
      fun g => g.localPort != f.localPort := by
    funext g
    exact congrArg not (tcp_beq g.localPort f.localPort)
  rw [ForwardTable.create, perform, List.map_append, List.filter_map, hother]
  rfl

theorem remove_rules :
    ForwardTable.remove (table.map PortForward.rule) serial (Host.tcp localPort) =
      if table.any (fun f => f.serial == serial && f.localPort == localPort) then
        some ((table.filter fun f => ! (f.serial == serial && f.localPort == localPort)).map
          PortForward.rule)
      else none := by
  have hit (f : PortForward) :
      (f.rule.serial == serial && f.rule.localSpec == Host.tcp localPort) =
        (f.serial == serial && f.localPort == localPort) :=
    congrArg (f.serial == serial && ·) (tcp_beq f.localPort localPort)
  simp only [ForwardTable.remove, List.any_map, List.filter_map, Function.comp_def, hit]

/-- The forwards of a table, on the daemon's lines. -/
theorem isForward_rule {f : PortForward} (h : Listing.IsField f.serial) :
    Listing.IsForward f.rule where
  serial := h
  localSpec := ⟨by simp [PortForward.rule, Host.tcp], fun _ hc => (mem_tcp hc).1⟩
  remoteSpec := ⟨by simp [PortForward.rule, Host.tcp], fun _ hc => (mem_tcp hc).1⟩

theorem isField_perform {table : PortTable} {call : ForwardCall}
    (htable : ∀ f ∈ table, Listing.IsField f.serial) (hcall : Listing.IsField call.serial) :
    ∀ f ∈ (table.perform call).2, Listing.IsField f.serial := by
  intro f hf
  cases call with
  | create g =>
    rcases List.mem_append.1 hf with hf | hf
    · exact htable f (List.mem_filter.1 hf).1
    · rw [List.mem_singleton.1 hf]
      exact hcall
  | remove serial localPort =>
    rw [perform] at hf
    split_ifs at hf
    · exact htable f (List.mem_filter.1 hf).1
    · exact htable f hf
  | list serial => exact htable f hf

end PortTable

/-! ## Devices that are online -/

/-- A device is online: the daemon lists it so and lets it be used, and the registry holds it so. Its serial
has no colon and no blank. -/
structure Site.HasOnline (site : Site MemoryDaemon) (serial : String) : Prop where
  listed : ⟨serial, .online⟩ ∈ Listing.devices (Listing.writeDevices site.daemon.devices)
  usable : site.daemon.deviceFault? serial = none
  held : site.registry.state? serial = some .online
  plain : ∀ c ∈ serial.toList, c ≠ ':' ∧ isBlank c = false

theorem Listing.serial_ne_of_mem_devices {payload : String} {l : Listed}
    (h : l ∈ Listing.devices payload) : l.serial ≠ "" := by
  obtain ⟨line, -, hline⟩ := List.mem_filterMap.1 h
  unfold Listing.device? at hline
  split at hline
  · split_ifs at hline with hempty
    cases hline
    simpa using hempty
  · cases hline

namespace Site

/-- A site with some devices, all of them online. -/
def ofDevices (serials : List String) : Site MemoryDaemon where
  registry := ⟨.ofList (serials.map fun serial => (serial, .fresh .online))⟩
  daemon := { MemoryDaemon.new "" with devices := serials.map fun serial => (serial, "device") }
  files := .empty
  installLimit := default

variable {site : Site MemoryDaemon} {serial : String}

theorem hasOnline_ofDevices {serials : List String} (hnodup : serials.Nodup)
    (h : ∀ serial ∈ serials, serial ≠ "" ∧ ∀ c ∈ serial.toList, c ≠ ':' ∧ isBlank c = false) :
    ∀ serial ∈ serials, (ofDevices serials).HasOnline serial := by
  intro serial hserial
  have hblank {serial : String} (hmem : serial ∈ serials) {c : Char} (hc : isBlank c = true) :
      c ∉ serial.toList := fun hin => by
    rw [((h serial hmem).2 c hin).2] at hc
    cases hc
  -- The listing ends a serial with a tab and a line with a line feed, and both are blanks.
  have hlines : ∀ d ∈ serials.map fun serial => (serial, "device"), Listing.IsDevice d.1 d.2 := by
    intro d hd
    obtain ⟨serial, hmem, rfl⟩ := List.mem_map.1 hd
    have htoken : '\t' ∉ "device".toList ∧ '\n' ∉ "device".toList := by decide
    have hshown : ∃ c ∈ "device".toList, isBlank c = false := ⟨'d', by decide, by decide⟩
    exact ⟨(h serial hmem).1, ⟨hblank hmem (by decide), hblank hmem (by decide)⟩, htoken, hshown⟩
  have hkeys : ((serials.map fun serial => (serial, Record.fresh .online)).map (·.1)).Nodup := by
    rwa [List.map_map, show (Prod.fst ∘ fun serial => (serial, Record.fresh .online)) = id from rfl,
      List.map_id]
  refine ⟨?_, ?_, ?_, (h serial hserial).2⟩
  · have htoken : DeviceState.ofToken (Text.trimmed "device") = .online := by decide
    show _ ∈ Listing.devices (Listing.writeDevices (serials.map fun serial => (serial, "device")))
    rw [Listing.devices_written hlines, List.map_map, List.mem_map]
    exact ⟨serial, hserial, by simp only [Function.comp_apply, htoken]⟩
  · have hfind : (serials.map fun serial => (serial, "device")).find? (·.1 == serial) =
        some (serial, "device") := by
      have hsome : (serials.find? (· == serial)).isSome = true :=
        List.find?_isSome.2 ⟨serial, hserial, beq_self_eq_true serial⟩
      obtain ⟨found, hfound⟩ := Option.isSome_iff_exists.1 hsome
      have hsame : found = serial := eq_of_beq (List.find?_some (p := (· == serial)) hfound)
      rw [List.find?_map]
      exact congrArg (Option.map fun serial => (serial, "device")) (hsame ▸ hfound)
    simp only [MemoryDaemon.deviceFault?, ofDevices, hfind, if_true]
  · have hrecord : (Dict.ofList (serials.map fun serial => (serial, Record.fresh .online))).get?
        serial = some (.fresh .online) :=
      (Dict.get?_foldl_insert hkeys .empty serial _).2 (.inl (List.mem_map.2 ⟨serial, hserial, rfl⟩))
    simp only [Registry.state?, ofDevices, hrecord]
    rfl

theorem HasOnline.isField (h : site.HasOnline serial) : Listing.IsField serial :=
  ⟨Listing.serial_ne_of_mem_devices h.listed, fun c hc => (h.plain c hc).2⟩

/-- The site with the forwards of a table, and after some requests. -/
def withForwards (site : Site MemoryDaemon) (table : PortTable) (requests : List String) :
    Site MemoryDaemon :=
  { site with daemon := site.daemon.withForwards (table.map PortForward.rule) requests }

end Site

/-! ## One call -/

section

variable {site : Site MemoryDaemon} {α : Type}

/-- A conversation over a connection of its own, from the desk. -/
theorem Desk.reach_briefly (hreach : site.daemon.reachable = true)
    {call : Call MemoryDaemon MemorySession α} {result : Except Error α}
    {w : Wire MemoryDaemon MemorySession} (hrun : call.run site.daemon.greeted = (result, w)) :
    Desk.reach (Net.briefly call) site = (some result, { site with daemon := w.daemon }) := by
  have hdial := MemoryDaemon.dial_eq hreach
  have hresult := Net.briefly_of_dial hdial call
  have hdaemon := Net.daemon_briefly_of_dial hdial call
  rw [hrun] at hresult hdaemon
  have hnet : Net.briefly call site.daemon = (result.mapError .failed, w.daemon) :=
    Prod.ext hresult hdaemon
  simp only [Desk.reach, hnet]
  cases result <;> rfl

/-- A conversation for a device that is online. -/
theorem Device.ifOnline_briefly (d : Device) (hreach : site.daemon.reachable = true)
    (hheld : site.registry.state? d.serial = some .online) {call : Call MemoryDaemon MemorySession α}
    {result : Except Error α} {w : Wire MemoryDaemon MemorySession}
    (hrun : call.run site.daemon.greeted = (result, w)) :
    d.ifOnline .error (.reach (Net.briefly call)) site =
      (some result, { site with daemon := w.daemon }) := by
  rw [← Desk.reach_briefly hreach hrun]
  simp only [Device.ifOnline, Device.ensureOnline, hheld]

variable {table : PortTable} {log : List String} {serial : String}

theorem perform_create {f : PortForward} (hreach : site.daemon.reachable = true)
    (h : site.HasOnline f.serial)
    (hshort : (Bytes.ofString (ForwardCall.create f).request).length ≤ longestRequest) :
    (ForwardCall.create f).perform (site.withForwards table log) =
      (some (table.perform (.create f)).1, site.withForwards (table.perform (.create f)).2
        (log ++ [(ForwardCall.create f).request])) := by
  have hcolon : ':' ∉ f.serial.toList := fun hmem => (h.plain _ hmem).1 rfl
  have hsemicolon : ';' ∉ (Host.tcp f.localPort).toList := fun hmem => (mem_tcp hmem).2 rfl
  have husable : MemoryDaemon.deviceFault? (site.daemon.withForwards (table.map PortForward.rule)
      (log ++ [(ForwardCall.create f).request])) f.serial = none := h.usable
  have hserve : MemoryDaemon.serve _ none (ForwardCall.create f).request =
      (site.daemon.withForwards (ForwardTable.create (table.map PortForward.rule) f.rule)
        (log ++ [(ForwardCall.create f).request])).grant .closed [] :=
    MemoryDaemon.serve_create _ hcolon husable hsemicolon (Host.tcp f.remotePort) none
  rw [table.create_rules] at hserve
  have hrun := MemoryDaemon.request_run_granted (site.withForwards table log).daemon hshort hserve
  have hcall : (Device.mk f.serial).createForward f.localPort f.remotePort
      (site.withForwards table log) = _ :=
    Device.ifOnline_briefly ⟨f.serial⟩ (show (site.withForwards table log).daemon.reachable = true
      from hreach) h.held hrun
  rw [ForwardCall.perform, Desk.map_apply, hcall]
  rfl

/-- The message about a missing forward is shorter than the request to remove it. -/
theorem length_notFound {localPort : UInt16} (hshort :
    (Bytes.ofString (ForwardCall.remove serial localPort).request).length ≤ longestRequest) :
    (Bytes.ofString s!"listener '{Host.tcp localPort}' not found").length ≤ longestRequest := by
  have hrequest : (ForwardCall.remove serial localPort).request =
      "host-serial:" ++ serial ++ ":killforward:" ++ Host.tcp localPort := rfl
  have hmessage : s!"listener '{Host.tcp localPort}' not found" =
      "listener '" ++ Host.tcp localPort ++ "' not found" := rfl
  have hlengths : (Bytes.ofString "host-serial:").length = 12 ∧
      (Bytes.ofString ":killforward:").length = 13 ∧
      (Bytes.ofString "listener '").length = 10 ∧
      (Bytes.ofString "' not found").length = 11 := by decide
  rw [hrequest] at hshort
  rw [hmessage]
  simp only [Bytes.ofString_append, List.length_append, hlengths] at hshort ⊢
  omega

theorem perform_remove {localPort : UInt16} (hreach : site.daemon.reachable = true)
    (h : site.HasOnline serial)
    (hshort : (Bytes.ofString (ForwardCall.remove serial localPort).request).length ≤ longestRequest) :
    (ForwardCall.remove serial localPort).perform (site.withForwards table log) =
      (some (table.perform (.remove serial localPort)).1,
        site.withForwards (table.perform (.remove serial localPort)).2
          (log ++ [(ForwardCall.remove serial localPort).request])) := by
  have hcolon : ':' ∉ serial.toList := fun hmem => (h.plain _ hmem).1 rfl
  have hreached : (site.withForwards table log).daemon.reachable = true := hreach
  have hremove := table.remove_rules serial localPort
  rw [ForwardCall.perform, Desk.map_apply, PortTable.perform]
  -- A forward that the table has is removed; one that it does not have is refused by the daemon.
  split_ifs at hremove ⊢ with hany
  · have hserve : MemoryDaemon.serve (site.daemon.withForwards (table.map PortForward.rule)
          (log ++ [(ForwardCall.remove serial localPort).request])) none
          (ForwardCall.remove serial localPort).request =
        (site.daemon.withForwards _ (log ++ [(ForwardCall.remove serial localPort).request])).grant
          .closed [] := MemoryDaemon.serve_remove _ hcolon none hremove
    have hrun := MemoryDaemon.request_run_granted (site.withForwards table log).daemon hshort hserve
    have hcall : (Device.mk serial).removeForward localPort (site.withForwards table log) = _ :=
      Device.ifOnline_briefly ⟨serial⟩ hreached h.held hrun
    rw [hcall]
    rfl
  · have hserve : MemoryDaemon.serve (site.daemon.withForwards (table.map PortForward.rule)
          (log ++ [(ForwardCall.remove serial localPort).request])) none
          (ForwardCall.remove serial localPort).request =
        (site.daemon.withForwards (table.map PortForward.rule)
          (log ++ [(ForwardCall.remove serial localPort).request])).refuse
            s!"listener '{Host.tcp localPort}' not found" :=
      MemoryDaemon.serve_remove_missing _ hcolon none hremove
    obtain ⟨w, hrun, hw⟩ := MemoryDaemon.request_run_refused (site.withForwards table log).daemon
      hshort hserve (length_notFound hshort)
    have hcall : (Device.mk serial).removeForward localPort (site.withForwards table log) = _ :=
      Device.ifOnline_briefly ⟨serial⟩ hreached h.held hrun
    rw [hcall, hw]
    rfl

/-- A table whose lines fit one frame is told as it is. -/
theorem forwards_run (d : MemoryDaemon) {rules : ForwardTable} (hrules : ∀ r ∈ rules, Listing.IsForward r)
    (hfits : (Bytes.ofString (Listing.writeForwards rules)).length ≤ longestRequest) :
    ∃ rest, (do
      Call.request "host:list-forward"
      let payload ← Call.frame
      pure (Listing.forwards (Utf8.lossy payload)) :
        Call MemoryDaemon MemorySession (List ForwardRule)).run (d.withForwards rules log).greeted =
      (.ok rules, ⟨d.withForwards rules (log ++ ["host:list-forward"]), ⟨.closed, []⟩, rest⟩) := by
  have hserve : MemoryDaemon.serve _ none "host:list-forward" =
      (d.withForwards rules (log ++ ["host:list-forward"])).grant .closed
        (MemoryDaemon.frame (Listing.writeForwards rules)) :=
    MemoryDaemon.serve_listForward _ none
  have hshort : (Bytes.ofString "host:list-forward").length ≤ longestRequest := by decide
  have hrequest := MemoryDaemon.request_run_granted (d.withForwards rules log) hshort hserve
  have hpayload : (Stream.ofBytes (MemoryDaemon.frame (Listing.writeForwards rules)) .closed).bytes =
      MemoryDaemon.frame (Listing.writeForwards rules) ++ [] := by
    rw [Stream.bytes_ofBytes, List.append_nil]
  obtain ⟨rest, hread, -⟩ := Read.gives_frame (MemoryDaemon.isFrame_frame hfits) hpayload
  have hframe : (Call.frame : Call MemoryDaemon MemorySession Bytes).run
      ⟨d.withForwards rules (log ++ ["host:list-forward"]), ⟨.closed, []⟩,
        .ofBytes (MemoryDaemon.frame (Listing.writeForwards rules)) .closed⟩ =
      (.ok (Bytes.ofString (Listing.writeForwards rules)),
        ⟨d.withForwards rules (log ++ ["host:list-forward"]), ⟨.closed, []⟩, rest⟩) :=
    Call.run_within _ hread
  refine ⟨rest, ?_⟩
  rw [run_bind_ok hrequest, run_bind_ok hframe, Utf8.lossy_ofString, Listing.forwards_written hrules]
  rfl

theorem forwards_apply (hreach : site.daemon.reachable = true)
    (htable : ∀ f ∈ table, Listing.IsField f.serial)
    (hfits : (Bytes.ofString table.text).length ≤ longestRequest) (serial : String) :
    (Device.mk serial).forwards (site.withForwards table log) =
      (some (.ok ((table.filter (·.serial == serial)).map PortForward.rule)),
        site.withForwards table (log ++ ["host:list-forward"])) := by
  have hrules : ∀ r ∈ table.map PortForward.rule, Listing.IsForward r := by
    intro r hr
    obtain ⟨f, hf, rfl⟩ := List.mem_map.1 hr
    exact PortTable.isForward_rule (htable f hf)
  have hreached : (site.withForwards table log).daemon.reachable = true := hreach
  obtain ⟨rest, hrun⟩ := forwards_run site.daemon hrules hfits
  have hdesk : Desk.reach Host.forwards (site.withForwards table log) = _ :=
    Desk.reach_briefly hreached hrun
  have hown : (table.map PortForward.rule).filter (·.serial == serial) =
      (table.filter (·.serial == serial)).map PortForward.rule := List.filter_map
  rw [Device.forwards, Desk.map_apply, hdesk, ← hown]
  rfl

theorem perform_list (hreach : site.daemon.reachable = true)
    (htable : ∀ f ∈ table, Listing.IsField f.serial)
    (hfits : (Bytes.ofString table.text).length ≤ longestRequest) :
    (ForwardCall.list serial).perform (site.withForwards table log) =
      (some (table.perform (.list serial)).1, site.withForwards (table.perform (.list serial)).2
        (log ++ [(ForwardCall.list serial).request])) := by
  rw [ForwardCall.perform, Desk.map_apply, forwards_apply hreach htable hfits]
  rfl

/-- A call that can be made: a change needs a device that is online, and a request that the framing can
tell. -/
def ForwardCall.Possible (site : Site MemoryDaemon) : ForwardCall → Prop
  | .list _ => True
  | call => site.HasOnline call.serial ∧ (Bytes.ofString call.request).length ≤ longestRequest

/-- What a call comes to on a handle is what it comes to on the table. -/
theorem perform_agree {call : ForwardCall} (log : List String) (hreach : site.daemon.reachable = true)
    (htable : ∀ f ∈ table, Listing.IsField f.serial)
    (hfits : (Bytes.ofString table.text).length ≤ longestRequest) (h : call.Possible site) :
    call.perform (site.withForwards table log) =
      (some (table.perform call).1,
        site.withForwards (table.perform call).2 (log ++ [call.request])) ∧
    ∀ f ∈ (table.perform call).2, Listing.IsField f.serial := by
  cases call with
  | create f =>
    exact ⟨perform_create hreach h.1 h.2, PortTable.isField_perform htable h.1.isField⟩
  | remove serial localPort =>
    exact ⟨perform_remove hreach h.1 h.2, PortTable.isField_perform htable h.1.isField⟩
  | list serial => exact ⟨perform_list hreach htable hfits, htable⟩

end

/-! ## Runs of calls -/

theorem Desk.mapM_cons_apply {D α β : Type} {f : α → Desk D β} {site site₁ site₂ : Site D} {a : α}
    {b : β} {as : List α} {bs : List β} (h : f a site = (some b, site₁))
    (hmore : (as.mapM f) site₁ = (some bs, site₂)) :
    ((a :: as).mapM f) site = (some (b :: bs), site₂) := by
  rw [List.mapM_cons, Desk.bind_apply h, Desk.bind_apply hmore]
  rfl

variable {site : Site MemoryDaemon}

/-- A run of calls, by induction on the calls: the table after the first call is again one of forwards
whose serials can stand in lines. -/
theorem performAll_agree (hreach : site.daemon.reachable = true) {calls : List ForwardCall} :
    ∀ (table : PortTable) (log : List String), (∀ f ∈ table, Listing.IsField f.serial) →
    (∀ call ∈ calls, call.Possible site) →
    (∀ before, before <+: calls →
      (Bytes.ofString (table.performAll before).2.text).length ≤ longestRequest) →
    (calls.mapM ForwardCall.perform) (site.withForwards table log) =
      (some (table.performAll calls).1,
        site.withForwards (table.performAll calls).2 (log ++ calls.map ForwardCall.request)) ∧
    ∀ f ∈ (table.performAll calls).2, Listing.IsField f.serial := by
  induction calls with
  | nil =>
    intro table log htable _ _
    rw [List.map_nil, List.append_nil]
    exact ⟨rfl, htable⟩
  | cons call calls ih =>
    intro table log htable hpossible hfits
    obtain ⟨hcall, htable'⟩ := perform_agree log hreach htable (hfits [] List.nil_prefix)
      (hpossible call List.mem_cons_self)
    obtain ⟨hcalls, hlast⟩ := ih _ (log ++ [call.request]) htable'
      (fun c hc => hpossible c (List.mem_cons_of_mem _ hc))
      (fun before hbefore => hfits (call :: before) (List.cons_prefix_cons.2 ⟨rfl, hbefore⟩))
    refine ⟨?_, hlast⟩
    rw [List.map_cons, List.append_cons]
    exact Desk.mapM_cons_apply hcall hcalls

/-- **Main theorem.** Calls about forwards are made through handles, against a daemon whose forwards are
those of a table; changes are made for devices that are online, with requests that the framing can tell,
and the table's lines always fit one frame. Then the calls have the answers that they have on the table,
nothing but the daemon's forwards and its log changes, and each handle lists the forwards of its serial
in the order of the table. -/
theorem forwards_of_calls {table : PortTable} {calls : List ForwardCall}
    (hreach : site.daemon.reachable = true)
    (hforwards : site.daemon.forwards = table.map PortForward.rule)
    (htable : ∀ f ∈ table, Listing.IsField f.serial) (hpossible : ∀ call ∈ calls, call.Possible site)
    (hfits : ∀ before, before <+: calls →
      (Bytes.ofString (table.performAll before).2.text).length ≤ longestRequest) :
    ∃ after, after = site.withForwards (table.performAll calls).2
        (site.daemon.requests ++ calls.map ForwardCall.request) ∧
      (calls.mapM ForwardCall.perform) site = (some (table.performAll calls).1, after) ∧
      ∀ serial, ((Device.mk serial).forwards after).1 =
        some (.ok (((table.performAll calls).2.filter (·.serial == serial)).map PortForward.rule)) := by
  have hsite : site.withForwards table site.daemon.requests = site := by
    rw [Site.withForwards, ← hforwards]
    rfl
  obtain ⟨hcalls, hlast⟩ := performAll_agree hreach table site.daemon.requests htable hpossible hfits
  rw [hsite] at hcalls
  exact ⟨_, rfl, hcalls, fun serial =>
    congrArg Prod.fst (forwards_apply hreach hlast (hfits calls List.prefix_rfl) serial)⟩

/-- Two devices share the local ports: the second forward of port 1 takes the place of the first, and is
not the first device's to remove. -/
theorem forwards_of_calls_of_two :
    ∃ after, ([.create ⟨"a", 1, 2⟩, .create ⟨"b", 1, 3⟩, .remove "a" 1, .create ⟨"a", 4, 5⟩].mapM
        ForwardCall.perform) (Site.ofDevices ["a", "b"]) =
        (some [.settled (.ok ()), .settled (.ok ()),
          .settled (.error (.rejected "listener 'tcp:1' not found")), .settled (.ok ())], after) ∧
      ((Device.mk "a").forwards after).1 = some (.ok [⟨"a", "tcp:4", "tcp:5"⟩]) ∧
      ((Device.mk "b").forwards after).1 = some (.ok [⟨"b", "tcp:1", "tcp:3"⟩]) := by
  have hplain : ∀ serial ∈ ["a", "b"], serial ≠ "" ∧
      (serial.toList.all fun c => c != ':' && ! isBlank c) = true := by decide
  have honline : ∀ serial ∈ ["a", "b"], (Site.ofDevices ["a", "b"]).HasOnline serial :=
    Site.hasOnline_ofDevices (by decide) fun serial hserial =>
      ⟨(hplain serial hserial).1, by simpa using (hplain serial hserial).2⟩
  have ha := honline "a" (by decide)
  have hb := honline "b" (by decide)
  have hinits : ∀ before ∈ List.inits [.create ⟨"a", 1, 2⟩, .create ⟨"b", 1, 3⟩, .remove "a" 1,
      .create ⟨"a", 4, 5⟩], (Bytes.ofString (PortTable.performAll [] before).2.text).length ≤
        longestRequest := by decide
  obtain ⟨after, -, hanswers, hlists⟩ := @forwards_of_calls (Site.ofDevices ["a", "b"]) []
    [.create ⟨"a", 1, 2⟩, .create ⟨"b", 1, 3⟩, .remove "a" 1, .create ⟨"a", 4, 5⟩] rfl rfl nofun
    (by
      simp only [List.forall_mem_cons]
      exact ⟨⟨ha, by decide⟩, ⟨hb, by decide⟩, ⟨ha, by decide⟩, ⟨ha, by decide⟩, nofun⟩)
    fun before h => hinits before ((List.mem_inits before _).2 h)
  exact ⟨after, hanswers, hlists "a", hlists "b"⟩

/-! ## Requests that are too long -/

/-- A request that the framing cannot tell is not made. -/
theorem perform_create_of_long {f : PortForward} (hreach : site.daemon.reachable = true)
    (h : site.HasOnline f.serial)
    (hlong : longestRequest < (Bytes.ofString (ForwardCall.create f).request).length) :
    ∃ detail, (ForwardCall.create f).perform site =
      (some (.settled (.error (.protocol detail))), site) := by
  obtain ⟨detail, hdetail⟩ := encodeRequest_of_lt hlong
  have hrun : (Call.request (ForwardCall.create f).request).run site.daemon.greeted =
      (.error (.protocol detail), site.daemon.greeted) := by
    rw [Call.request, hdetail]
    rfl
  have hcall : (Device.mk f.serial).createForward f.localPort f.remotePort site = _ :=
    Device.ifOnline_briefly ⟨f.serial⟩ hreach h.held hrun
  refine ⟨detail, ?_⟩
  rw [ForwardCall.perform, Desk.map_apply, hcall]
  rfl

/-- The serial of a device that one frame can list, with a forward that fits one frame, and a request for
the forward that does not. -/
theorem perform_of_length {serial : String} (hlength : (Bytes.ofString serial).length = 65510)
    (hplain : ∀ c ∈ serial.toList, c ≠ ':' ∧ isBlank c = false) :
    (Site.ofDevices [serial]).HasOnline serial ∧
    (Bytes.ofString (Listing.writeDevices (Site.ofDevices [serial]).daemon.devices)).length ≤
      longestRequest ∧
    (∀ before, before <+: [.create ⟨serial, 1, 2⟩] →
      (Bytes.ofString (PortTable.performAll [] before).2.text).length ≤ longestRequest) ∧
    (PortTable.performAll [] [.create ⟨serial, 1, 2⟩]).1 = [.settled (.ok ())] ∧
    ∃ detail, (ForwardCall.create ⟨serial, 1, 2⟩).perform (Site.ofDevices [serial]) =
      (some (.settled (.error (.protocol detail))), Site.ofDevices [serial]) := by
  have hlongest : longestRequest = 65535 := rfl
  have hne : serial ≠ "" := by
    rintro rfl
    cases hlength
  have honline : (Site.ofDevices [serial]).HasOnline serial :=
    Site.hasOnline_ofDevices (List.pairwise_singleton _ _)
      (fun s hs => List.mem_singleton.1 hs ▸ ⟨hne, hplain⟩) serial (List.mem_singleton_self serial)
  have hports : Host.tcp 1 = "tcp:1" ∧ Host.tcp 2 = "tcp:2" := by decide
  have hdevices : Listing.writeDevices (Site.ofDevices [serial]).daemon.devices =
      serial ++ "\tdevice\n" := by
    show serial ++ "\t" ++ "device" ++ "\n" = _
    rw [String.append_assoc, String.append_assoc]
    rfl
  have htable : PortTable.text [⟨serial, 1, 2⟩] = serial ++ " tcp:1 tcp:2\n" := by
    show serial ++ " " ++ Host.tcp 1 ++ " " ++ Host.tcp 2 ++ "\n" = _
    rw [hports.1, hports.2]
    simp only [String.append_assoc]
    rfl
  have hrequest : (ForwardCall.create ⟨serial, 1, 2⟩).request =
      "host-serial:" ++ (serial ++ ":forward:tcp:1;tcp:2") := by
    show "host-serial:" ++ serial ++ ":forward:" ++ Host.tcp 1 ++ ";" ++ Host.tcp 2 = _
    rw [hports.1, hports.2]
    simp only [String.append_assoc]
    rfl
  have hlengths : (Bytes.ofString "\tdevice\n").length = 8 ∧
      (Bytes.ofString " tcp:1 tcp:2\n").length = 13 ∧
      (Bytes.ofString "host-serial:").length = 12 ∧
      (Bytes.ofString ":forward:tcp:1;tcp:2").length = 20 := by decide
  refine ⟨honline, ?_, ?_, rfl, perform_create_of_long rfl honline ?_⟩
  · rw [hdevices, Bytes.ofString_append, List.length_append, hlength, hlengths.1]
    omega
  · intro before hbefore
    rcases List.prefix_cons_iff.1 hbefore with rfl | ⟨before, rfl, hnil⟩
    · decide
    · rw [List.prefix_nil.1 hnil]
      show (Bytes.ofString (PortTable.text [⟨serial, 1, 2⟩])).length ≤ longestRequest
      rw [htable, Bytes.ofString_append, List.length_append, hlength, hlengths.2.1]
      omega
  · rw [hrequest, Bytes.ofString_append, Bytes.ofString_append, List.length_append, List.length_append,
      hlength]
    omega

/-- The serial of some letters. -/
def lettersSerial (n : Nat) : String := String.ofList (List.replicate n 'a')

theorem length_lettersSerial (n : Nat) : (Bytes.ofString (lettersSerial n)).length = n := by
  have hone : (String.utf8EncodeChar 'a').length = 1 := by decide
  rw [lettersSerial, Bytes.ofString_eq_flatMap, String.toList_ofList, List.length_flatMap,
    List.map_replicate, List.sum_replicate_nat, hone, Nat.mul_one]

theorem plain_lettersSerial (n : Nat) :
    ∀ c ∈ (lettersSerial n).toList, c ≠ ':' ∧ isBlank c = false := by
  intro c hc
  rw [lettersSerial, String.toList_ofList] at hc
  rw [List.eq_of_mem_replicate hc]
  decide

/-- A table may fit one frame although the request for its only forward does not. -/
theorem perform_of_longSerial :
    (Site.ofDevices [lettersSerial 65510]).HasOnline (lettersSerial 65510) ∧
    (Bytes.ofString (Listing.writeDevices
      (Site.ofDevices [lettersSerial 65510]).daemon.devices)).length ≤ longestRequest ∧
    (∀ before, before <+: [.create ⟨lettersSerial 65510, 1, 2⟩] →
      (Bytes.ofString (PortTable.performAll [] before).2.text).length ≤ longestRequest) ∧
    (PortTable.performAll [] [.create ⟨lettersSerial 65510, 1, 2⟩]).1 = [.settled (.ok ())] ∧
    ∃ detail, (ForwardCall.create ⟨lettersSerial 65510, 1, 2⟩).perform
        (Site.ofDevices [lettersSerial 65510]) =
      (some (.settled (.error (.protocol detail))), Site.ofDevices [lettersSerial 65510]) :=
  perform_of_length (length_lettersSerial 65510) (plain_lettersSerial 65510)

end DebugBridge
