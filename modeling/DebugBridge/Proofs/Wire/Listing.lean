import DebugBridge.Proofs.Text.Pieces
import DebugBridge.Wire.Listing

/-!
# Listings are read line by line, and as they are written

Each line of a listing is read on its own. A line may end in a line feed, in a carriage return and a line
feed, or with the text: no reader looks at the blanks at its end. So no line, however malformed, changes
how another one is read.

A listing is written one entry to a line, and each line is read back to its entry: a device's line is cut
at its tab, a number is read digit by digit, and the ends of a forward stand between blanks. What the
fields must not have is what they are cut at; a state may have blanks around it.

Results:
* `Listing.read_append`, in all three listings lines are read on their own;
* `Listing.devices_written`, `Listing.forwards_written`, and for all three listings
  `Listing.read_written`.
-/

namespace DebugBridge.Listing

open Text

/-! ## Lines on their own -/

theorem readsLines_device? : ReadsLines device? where
  nil := rfl
  dropReturn line := by rw [device?, trimRight_dropReturn, device?]

theorem readsLines_pid? : ReadsLines pid? where
  nil := by decide
  dropReturn line := by rw [pid?, trim_dropReturn, pid?]

theorem readsLines_forward? : ReadsLines forward? where
  nil := rfl
  dropReturn line := by rw [forward?, words_dropReturn, forward?]

/-- **Main theorem.** Lines are read on their own. In each listing, two texts with a line feed between them
are read one after the other. So a line that stands between them, with or without a carriage return at its
end, adds what its own reader makes of it, which is nothing if it is blank or malformed; all other lines
are read as if it were not there. -/
theorem read_append (p q : String) :
    (devices (p ++ "\n" ++ q) = devices p ++ devices q ∧
      pids (p ++ "\n" ++ q) = pids p ++ pids q ∧
      forwards (p ++ "\n" ++ q) = forwards p ++ forwards q) ∧
    ∀ line : String, '\n' ∉ line.toList → ∀ ending : String, ending = "\n" ∨ ending = "\r\n" →
      devices (p ++ "\n" ++ (line ++ (ending ++ q))) =
        devices p ++ ((device? line.toList).toList ++ devices q) ∧
      pids (p ++ "\n" ++ (line ++ (ending ++ q))) =
        pids p ++ ((pid? line.toList).toList ++ pids q) ∧
      forwards (p ++ "\n" ++ (line ++ (ending ++ q))) =
        forwards p ++ ((forward? line.toList).toList ++ forwards q) := by
  have hfeed (rest : String) : (p ++ "\n" ++ rest).toList = p.toList ++ '\n' :: rest.toList := by
    rw [String.toList_append, String.toList_append, List.append_assoc]
    rfl
  refine ⟨⟨?_, ?_, ?_⟩, fun line hline ending hending => ?_⟩
  · rw [devices, hfeed, readsLines_device?.filterMap_append, devices, devices]
  · rw [pids, hfeed, readsLines_pid?.filterMap_append, pids, pids]
  · rw [forwards, hfeed, readsLines_forward?.filterMap_append, forwards, forwards]
  · have hchars : ending.toList = ['\n'] ∨ ending.toList = ['\r', '\n'] :=
      hending.imp (fun h => by rw [h]; rfl) fun h => by rw [h]; rfl
    have hbetween {β : Type} {read : List Char → Option β} (h : ReadsLines read) :
        (lines (p ++ "\n" ++ (line ++ (ending ++ q))).toList).filterMap read =
          (lines p.toList).filterMap read ++
            ((read line.toList).toList ++ (lines q.toList).filterMap read) := by
      rw [hfeed, String.toList_append, String.toList_append]
      exact h.filterMap_between hline hchars p.toList q.toList
    exact ⟨hbetween readsLines_device?, hbetween readsLines_pid?, hbetween readsLines_forward?⟩

/-- A line that ends in a carriage return and has no state: the devices around it are read. -/
theorem read_append_garbage :
    '\n' ∉ "garbage".toList ∧ device? "garbage".toList = none ∧
      devices ("a\tdevice\r" ++ "\n" ++ ("garbage" ++ ("\r\n" ++ "b\toffline"))) =
        devices "a\tdevice\r" ++ devices "b\toffline" ∧
      devices "a\tdevice\r" = [⟨"a", .online⟩] ∧ devices "b\toffline" = [⟨"b", .offline⟩] := by
  have hline : '\n' ∉ "garbage".toList := by decide
  have hnone : device? "garbage".toList = none := by decide
  have hread := ((read_append "a\tdevice\r" "b\toffline").2 "garbage" hline "\r\n" (.inr rfl)).1
  rw [hnone] at hread
  exact ⟨hline, hnone, hread, by decide, by decide⟩

/-! ## Lines as they are written -/

/-- A device's line. -/
def deviceLine (serial token : String) : List Char := serial.toList ++ '\t' :: token.toList

/-- Can the serial and the state stand in a device's line? The serial is not empty, the state has more
than blanks, and neither has a tab or a line feed. -/
structure IsDevice (serial token : String) : Prop where
  serial_ne : serial ≠ ""
  serial_line : '\t' ∉ serial.toList ∧ '\n' ∉ serial.toList
  token_line : '\t' ∉ token.toList ∧ '\n' ∉ token.toList
  token_shown : ∃ c ∈ token.toList, isBlank c = false

/-- Can a text stand between blanks? -/
def IsField (s : String) : Prop := s ≠ "" ∧ ∀ c ∈ s.toList, isBlank c = false

theorem device?_line {serial token : String} (h : IsDevice serial token) :
    device? (dropReturn (deviceLine serial token)) =
      some ⟨serial, .ofToken (trimmed token)⟩ := by
  have htab : ∃ c ∈ '\t' :: token.toList, isBlank c = false := by
    obtain ⟨c, hc, hshown⟩ := h.token_shown
    exact ⟨c, List.mem_cons_of_mem _ hc, hshown⟩
  have htrimmed : trimRight (deviceLine serial token) =
      serial.toList ++ '\t' :: trimRight token.toList := by
    rw [deviceLine, trimRight_append_of_not_blank htab]
    exact congrArg _ (trimRight_append_of_not_blank h.token_shown ['\t'])
  have hstate : '\t' ∉ trimRight token.toList := fun hmem =>
    h.token_line.1 ((List.rdropWhile_prefix isBlank _).subset hmem)
  have hfields : (trimRight (deviceLine serial token)).splitOn '\t' =
      [serial.toList, trimRight token.toList] := by
    rw [htrimmed, List.splitOn_append_cons_self_of_not_mem h.serial_line.1,
      List.splitOn_eq_singleton hstate]
  have hserial : serial.toList.isEmpty = false := by simpa using h.serial_ne
  rw [readsLines_device?.dropReturn]
  simp only [device?, hfields, hserial, Bool.false_eq_true, if_false, trim_trimRight,
    String.ofList_toList, trimmed]

theorem pid?_line (pid : UInt32) : pid? (dropReturn (toString pid.toNat).toList) = some pid := by
  rw [readsLines_pid?.dropReturn, pid?, ← trimmed, trimmed_toString, word?_toString pid.toNat_lt,
    UInt32.ofNat_toNat]

/-- A forward's line. -/
def forwardLine (r : ForwardRule) : List Char :=
  r.serial.toList ++ ' ' :: (r.localSpec.toList ++ ' ' :: r.remoteSpec.toList)

/-- Can the fields of a forward stand in its line? -/
structure IsForward (r : ForwardRule) : Prop where
  serial : IsField r.serial
  localSpec : IsField r.localSpec
  remoteSpec : IsField r.remoteSpec

/-- A forward's line has no blanks but the two spaces. -/
theorem not_mem_forwardLine {r : ForwardRule} (h : IsForward r) {c : Char}
    (hc : isBlank c = true ∧ c ≠ ' ') : c ∉ forwardLine r := by
  have hnot {s : String} (hs : IsField s) : c ∉ s.toList := fun hmem =>
    absurd (hs.2 c hmem) (by simp [hc.1])
  simp [forwardLine, hnot h.serial, hnot h.localSpec, hnot h.remoteSpec, hc.2]

theorem forward?_line {r : ForwardRule} (h : IsForward r) :
    forward? (dropReturn (forwardLine r)) = some r := by
  have hne {s : String} (hs : IsField s) : s.toList ≠ [] := by simpa using hs.1
  have hwords : words (forwardLine r) =
      [r.serial.toList, r.localSpec.toList, r.remoteSpec.toList] := by
    rw [forwardLine, words_cons (hne h.serial) h.serial.2 (by decide),
      words_cons (hne h.localSpec) h.localSpec.2 (by decide),
      words_of_blankless (hne h.remoteSpec) h.remoteSpec.2]
  rw [readsLines_forward?.dropReturn]
  simp only [forward?, hwords, String.ofList_toList]

/-- Devices that can stand in their lines are read back. -/
theorem devices_written {list : List (String × String)} (h : ∀ d ∈ list, IsDevice d.1 d.2) :
    devices (writeDevices list) =
      list.map fun (serial, token) => ⟨serial, .ofToken (trimmed token)⟩ := by
  have hwritten (d : String × String) :
      (s!"{d.1}\t{d.2}\n").toList = deviceLine d.1 d.2 ++ ['\n'] := by
    simp only [deviceLine, String.toList_append, List.append_assoc]
    rfl
  have hline : ∀ d ∈ list, '\n' ∉ deviceLine d.1 d.2 := fun d hd => by
    simp [deviceLine, (h d hd).serial_line.2, (h d hd).token_line.2]
  exact filterMap_lines hwritten hline fun d hd => device?_line (h d hd)

/-- Forwards whose fields can stand in their lines are read back. -/
theorem forwards_written {rules : List ForwardRule} (h : ∀ r ∈ rules, IsForward r) :
    forwards (writeForwards rules) = rules := by
  have hwritten (r : ForwardRule) :
      (s!"{r.serial} {r.localSpec} {r.remoteSpec}\n").toList = forwardLine r ++ ['\n'] := by
    simp only [forwardLine, String.toList_append, List.append_assoc, List.cons_append]
    rfl
  have hline : ∀ r ∈ rules, '\n' ∉ forwardLine r := fun r hr =>
    not_mem_forwardLine (h r hr) (by decide)
  exact (filterMap_lines hwritten hline fun r hr => forward?_line (h r hr)).trans (List.map_id _)

/-- **Main theorem.** Each listing is read back as it was written, in order and to the last entry.
* Devices: serials that are not empty, and states with more than blanks, without tabs and line feeds; the
  states are those of the tokens without the blanks around them.
* Process numbers: any.
* Forwards: fields that are not empty and have no blanks. -/
theorem read_written :
    (∀ list : List (String × String), (∀ d ∈ list, IsDevice d.1 d.2) →
      devices (writeDevices list) =
        list.map fun (serial, token) => ⟨serial, .ofToken (trimmed token)⟩) ∧
    (∀ list : List UInt32, pids (writePids list) = list) ∧
    (∀ rules : List ForwardRule, (∀ r ∈ rules, IsForward r) →
      forwards (writeForwards rules) = rules) := by
  refine ⟨fun list hlist => ?_, fun list => ?_, fun rules hrules => ?_⟩
  · exact devices_written hlist
  · have hwritten (pid : UInt32) :
        (s!"{pid.toNat}\n").toList = (toString pid.toNat).toList ++ ['\n'] := by
      simp only [String.toList_append]
      rfl
    have hline : ∀ pid ∈ list, '\n' ∉ (toString pid.toNat).toList := fun pid _ hfeed =>
      absurd (isDigit_of_mem_toString hfeed) (by decide)
    exact (filterMap_lines hwritten hline fun pid _ => pid?_line pid).trans (List.map_id _)
  · exact forwards_written hrules

/-- Odd entries are read back too: a serial of blanks, a state that no token names with blanks around it,
the first and the last process number. -/
theorem read_written_odd :
    devices (writeDevices [(" \r", " rebooting\r"), ("emulator-5554", "device")]) =
      [⟨" \r", .offline⟩, ⟨"emulator-5554", .online⟩] ∧
    pids (writePids [0, 4294967295]) = [0, 4294967295] ∧
    forwards (writeForwards [⟨"abc", "tcp:6100", "jdwp:1"⟩]) = [⟨"abc", "tcp:6100", "jdwp:1"⟩] := by
  obtain ⟨hdevices, hpids, hforwards⟩ := read_written
  have hodd : IsDevice " \r" " rebooting\r" :=
    ⟨by decide, by decide, by decide, 'r', by decide, by decide⟩
  have hplain : IsDevice "emulator-5554" "device" :=
    ⟨by decide, by decide, by decide, 'd', by decide, by decide⟩
  have hfield {s : String} (hs : s ≠ "" ∧ s.toList.any isBlank = false) : IsField s :=
    ⟨hs.1, by simpa using hs.2⟩
  have hrule : IsForward ⟨"abc", "tcp:6100", "jdwp:1"⟩ :=
    ⟨hfield (by decide), hfield (by decide), hfield (by decide)⟩
  refine ⟨(hdevices _ (by simp [hodd, hplain])).trans ?_, hpids _, hforwards _ (by simp [hrule])⟩
  show [(⟨" \r", .ofToken (trimmed " rebooting\r")⟩ : Listed),
    ⟨"emulator-5554", .ofToken (trimmed "device")⟩] = _
  have htrimmed : trimmed " rebooting\r" = "rebooting" ∧ trimmed "device" = "device" := by decide
  rw [htrimmed.1, htrimmed.2]
  rfl

end DebugBridge.Listing
