import DebugBridge.Proofs.MemoryDaemon.Request
import DebugBridge.Proofs.Wire.Answers

/-!
# Forwards of a daemon in memory

A request about forwards is cut at its colons and its semicolon, and changes the forward table or tells of
it. The daemon closes the connection after its answer, so the answer is all that is received
(`request_run_closed`).

Results:
* `isFrame_frame`, a payload of the daemon is framed;
* `serve_create`, `serve_remove`, `serve_remove_missing`, `serve_listForward`, what the daemon makes of a request about forwards;
* `request_run_granted`, `request_run_refused`, what such a request comes to.
-/

namespace DebugBridge.MemoryDaemon

/-! ## Frames -/

theorem utf8EncodeChar_digitChar : ∀ n < 16,
    Bytes.capitals (String.utf8EncodeChar (Nat.digitChar n)) = [hexByte n] := by
  decide

/-- The last of some digits with zeros in front of them. -/
theorem padded_succ (k n : Nat) :
    List.replicate (k + 2 - (Nat.toDigits 16 n).length) '0' ++ Nat.toDigits 16 n =
      List.replicate (k + 1 - (Nat.toDigits 16 (n / 16)).length) '0' ++ Nat.toDigits 16 (n / 16) ++
        [Nat.digitChar (n % 16)] := by
  -- A single digit has no digits in front of it, but `Nat.toDigits` writes a zero there.
  by_cases hsmall : n < 16
  · have hzero : Nat.toDigits 16 0 = ['0'] := rfl
    rw [Nat.toDigits_of_lt_base hsmall, Nat.div_eq_of_lt hsmall, Nat.mod_eq_of_lt hsmall, hzero]
    simp only [List.length_singleton, Nat.add_sub_cancel, Nat.reduceSubDiff]
    rw [← List.replicate_succ']
  · have hdigits := Nat.toDigits_of_base_le (b := 16) (n := n) (by omega) (by omega)
    have hsub : ∀ m, k + 2 - (m + 1) = k + 1 - m := fun m => Nat.add_sub_add_right (k + 1) 1 m
    rw [hdigits, List.length_append, List.length_singleton, hsub, List.append_assoc]

theorem padded_toDigits {n : Nat} (h : n ≤ longestRequest) :
    List.replicate (4 - (Nat.toDigits 16 n).length) '0' ++ Nat.toDigits 16 n =
      Text.fourDigits Nat.digitChar n := by
  have hlong : longestRequest = 65535 := rfl
  have hfirst : n / 16 / 16 / 16 < 16 := by omega
  rw [padded_succ 2, padded_succ 1, padded_succ 0, Nat.toDigits_of_lt_base hfirst, Text.fourDigits]
  have hdiv : n / 16 / 16 / 16 = n / 4096 % 16 ∧ n / 16 / 16 = n / 256 := by omega
  rw [hdiv.1, hdiv.2]
  rfl

/-- A payload is framed if its length fits. -/
theorem isFrame_frame {payload : String} (h : (Bytes.ofString payload).length ≤ longestRequest) :
    IsFrame (frame payload) (Bytes.ofString payload) := by
  refine ⟨h, _, rfl, ?_⟩
  have hdigit := fun m => utf8EncodeChar_digitChar (m % 16) (Nat.mod_lt m (by omega))
  rw [padded_toDigits h, Bytes.ofString_eq_flatMap, String.toList_ofList, lengthDigits_eq,
    Text.fourDigits, Bytes.capitals]
  simp only [Bytes.capitals] at hdigit
  simp only [List.flatMap_cons, List.flatMap_nil, List.map_append, hdigit, List.map_nil, List.cons_append,
    List.nil_append]

/-! ## Requests about forwards -/

variable (d : MemoryDaemon) {serial : String}

/-- A request to the service of a device is about forwards. -/
theorem serve_hostSerial (selected : Option String) (target : String) :
    d.serve selected ("host-serial:" ++ target) = d.forward target.toList := by
  have hother (lead : String) (h : ¬ lead.toList <+: "host-serial:".toList)
      (h' : ¬ "host-serial:".toList <+: lead.toList) :
      Text.after? lead.toList ("host-serial:" ++ target).toList = none := by
    have hnone := Text.afterString?_append_eq_none target h h'
    rwa [Text.afterString?, Option.map_eq_none_iff] at hnone
  have hne (service : String) (h : ¬ "host-serial:".toList <+: service.toList) :
      "host-serial:" ++ target ≠ service := by
    rintro rfl
    exact h (String.toList_append ▸ List.prefix_append _ _)
  have hafter : Text.after? "host-serial:".toList ("host-serial:" ++ target).toList =
      some target.toList := by
    rw [String.toList_append, Text.after?_append]
  simp only [serve, hother "host:transport:" (by decide) (by decide),
    hother "shell:" (by decide) (by decide), hother "jdwp:" (by decide) (by decide),
    hother "reboot:" (by decide) (by decide), hne "host:version" (by decide),
    hne "host:track-devices" (by decide), hne "host:list-forward" (by decide), hne "sync:" (by decide),
    hne "track-jdwp" (by decide), hafter, if_false, Option.isSome_none, Bool.false_and,
    Bool.false_eq_true]

theorem serve_create (hserial : ':' ∉ serial.toList) (husable : d.deviceFault? serial = none)
    {localSpec : String} (hlocal : ';' ∉ localSpec.toList) (remoteSpec : String)
    (selected : Option String) :
    d.serve selected s!"host-serial:{serial}:forward:{localSpec};{remoteSpec}" =
      { d with forwards := ForwardTable.create d.forwards ⟨serial, localSpec, remoteSpec⟩ }.grant
        .closed [] := by
  have hservice : s!"host-serial:{serial}:forward:{localSpec};{remoteSpec}" =
      "host-serial:" ++ (serial ++ (":forward:" ++ (localSpec ++ (";" ++ remoteSpec)))) := by
    simp only [← String.append_assoc]
    rfl
  have htarget : (serial ++ (":forward:" ++ (localSpec ++ (";" ++ remoteSpec)))).toList =
      serial.toList ++ ':' :: ("forward:".toList ++ (localSpec.toList ++ ';' :: remoteSpec.toList)) := by
    simp only [String.toList_append]
    rfl
  rw [hservice, serve_hostSerial, htarget]
  simp only [forward, Text.cutAt_append hserial, Text.after?_append, Text.cutAt_append hlocal,
    String.ofList_toList, husable]

/-- A request to remove a forward is about forwards. -/
theorem serve_killforward (serial localSpec : String) (selected : Option String) :
    d.serve selected (s!"host-serial:{serial}:killforward:" ++ localSpec) =
      d.forward (serial.toList ++ ':' :: ("killforward:".toList ++ localSpec.toList)) := by
  have hservice : s!"host-serial:{serial}:killforward:" ++ localSpec =
      "host-serial:" ++ (serial ++ (":killforward:" ++ localSpec)) := by
    simp only [← String.append_assoc]
    rfl
  have htarget : (serial ++ (":killforward:" ++ localSpec)).toList =
      serial.toList ++ ':' :: ("killforward:".toList ++ localSpec.toList) := by
    simp only [String.toList_append]
    rfl
  rw [hservice, serve_hostSerial, htarget]

section

variable {localSpec : String} (hserial : ':' ∉ serial.toList) (selected : Option String)
include hserial

theorem serve_remove {table : ForwardTable}
    (h : ForwardTable.remove d.forwards serial localSpec = some table) :
    d.serve selected (s!"host-serial:{serial}:killforward:" ++ localSpec) =
      { d with forwards := table }.grant .closed [] := by
  have hcreate : Text.after? "forward:".toList ("killforward:".toList ++ localSpec.toList) = none :=
    rfl
  rw [serve_killforward]
  simp only [forward, Text.cutAt_append hserial, hcreate, Text.after?_append, String.ofList_toList, h]

theorem serve_remove_missing (h : ForwardTable.remove d.forwards serial localSpec = none) :
    d.serve selected (s!"host-serial:{serial}:killforward:" ++ localSpec) =
      d.refuse s!"listener '{localSpec}' not found" := by
  have hcreate : Text.after? "forward:".toList ("killforward:".toList ++ localSpec.toList) = none :=
    rfl
  rw [serve_killforward]
  simp only [forward, Text.cutAt_append hserial, hcreate, Text.after?_append, String.ofList_toList, h]

end

theorem serve_listForward (selected : Option String) :
    d.serve selected "host:list-forward" =
      d.grant .closed (frame (Listing.writeForwards d.forwards)) := by
  have htransport : Text.after? "host:transport:".toList "host:list-forward".toList = none := by decide
  have hversion : "host:list-forward" ≠ "host:version" := by decide
  have htrack : "host:list-forward" ≠ "host:track-devices" := by decide
  simp only [serve, htransport, hversion, htrack, if_false, if_true]

/-- The daemon with a table of forwards, and with what it has been asked for. -/
def withForwards (d : MemoryDaemon) (forwards : ForwardTable) (requests : List String) :
    MemoryDaemon :=
  { d with forwards, requests }

/-! ## Answers that end the connection -/

/-- The connection on which a daemon waits for a first request. -/
def greeted (d : MemoryDaemon) : Wire MemoryDaemon MemorySession :=
  ⟨d, ⟨.request none, []⟩, .ofBytes [] .silent⟩

theorem dial_eq {d : MemoryDaemon} (h : d.reachable = true) : (Net.dial d).1 = .ok d.greeted := by
  simp only [Net.dial, Daemon.accept, h, if_true]
  rfl

/-- What a request comes to if its answer ends the connection. -/
theorem request_run_closed {service : String} {d' : MemoryDaemon} {answer : Bytes} {status : Status}
    {rest : Stream} (hshort : (Bytes.ofString service).length ≤ longestRequest)
    (hserve : MemoryDaemon.serve { d with requests := d.requests ++ [service] } none service =
      (d', .closed, answer))
    (hstatus : Read.status.run (.ofBytes answer .closed) = (.ok status, rest)) :
    (Call.request service).run d.greeted = (settled (.ok status), ⟨d', ⟨.closed, []⟩, rest⟩) := by
  obtain ⟨bytes, hbytes⟩ : ∃ bytes, encodeRequest service = .ok bytes :=
    ⟨_, encodeRequest_of_le hshort⟩
  have hreceive : Daemon.receive d.greeted.daemon d.greeted.session bytes =
      ⟨d', ⟨.closed, []⟩, answer, .closed⟩ := receive_encodeRequest d none hbytes hserve
  have hanswer :
      let r := Daemon.receive d.greeted.daemon d.greeted.session bytes
      Read.status.run (d.greeted.stream.extend r.answer r.ending) = (.ok status, rest) := by
    rw [hreceive]
    exact hstatus
  have hrun := Call.run_request hbytes hanswer
  cases status with
  | okay =>
    exact hrun.trans (congrArg (fun r => (_, (⟨r.daemon, r.session, rest⟩ : Wire _ _))) hreceive)
  | fail message =>
    exact hrun.trans (congrArg (fun r => (_, (⟨r.daemon, r.session, rest⟩ : Wire _ _))) hreceive)

/-- What is granted is read, and what more there is to say is left. -/
theorem request_run_granted {service : String} {d' : MemoryDaemon} {more : Bytes}
    (hshort : (Bytes.ofString service).length ≤ longestRequest)
    (hserve : MemoryDaemon.serve { d with requests := d.requests ++ [service] } none service =
      d'.grant .closed more) :
    (Call.request service).run d.greeted = (.ok (), ⟨d', ⟨.closed, []⟩, .ofBytes more .closed⟩) :=
  request_run_closed d hshort hserve
    (Read.status_of_take? (Stream.take?_ofBytes okayToken more .closed rfl))

/-- What is refused is read as the message. -/
theorem request_run_refused {service message : String} {d' : MemoryDaemon}
    (hshort : (Bytes.ofString service).length ≤ longestRequest)
    (hserve : MemoryDaemon.serve { d with requests := d.requests ++ [service] } none service =
      d'.refuse message)
    (hmessage : (Bytes.ofString message).length ≤ longestRequest) :
    ∃ w, (Call.request service).run d.greeted = (.error (.rejected message), w) ∧ w.daemon = d' := by
  have hanswer : (Stream.ofBytes (refusal message) .closed).bytes =
      failToken ++ (frame message ++ []) := by
    rw [Stream.bytes_ofBytes, List.append_nil, refusal]
  obtain ⟨rest, hstatus, -⟩ := Read.gives_fail (isFrame_frame hmessage) hanswer
  rw [Utf8.lossy_ofString] at hstatus
  exact ⟨_, request_run_closed d hshort hserve hstatus, rfl⟩

end DebugBridge.MemoryDaemon
