import DebugBridge.Device.Handle
import Mathlib.Tactic.SplitIfs

/-!
# Which devices are emulators

There are two answers to the question whether a device is an emulator. A snapshot looks at the form of
the serial: after `emulator-` there are digits, of any script and however many. A handle asks for the port
of the console, and such digits name a port only if they are ASCII digits whose number is below 65536. So
a serial that only looks like an emulator's gets two answers.

Results:
* `decimal?_eq_some_iff`, which texts are numbers;
* `isEmulator_iff`, `consolePort?_eq_some_iff`, the form of a serial and the port in it;
* `isEmulator_snapshot_handle`, when the two answers are the same.
-/

namespace DebugBridge

/-! ## Whole numbers -/

namespace Text

variable {cs : List Char} {c : Char}

theorem isDigit_of_digit? {d : Nat} (h : digit? c = some d) : c.isDigit = true := by
  rw [digit?] at h
  split_ifs at h with hc
  simpa [Char.isDigit, Char.le_def] using hc

theorem isDigit_of_digits? {start n : Nat} (h : digits? 10 digit? start cs = some n) :
    ∀ c ∈ cs, c.isDigit = true := by
  induction cs generalizing start with
  | nil => nofun
  | cons x cs ih =>
    rw [digits?] at h
    split at h
    · rename_i d hd
      exact List.forall_mem_cons.2 ⟨isDigit_of_digit? hd, ih h⟩
    · cases h

/-- The numbers are the texts of ASCII digits, of any length. -/
theorem decimal?_eq_some_iff {n : Nat} :
    decimal? cs = some n ↔
      cs ≠ [] ∧ (∀ c ∈ cs, c.isDigit = true) ∧ Nat.ofDigitChars 10 cs 0 = n := by
  rw [decimal?]
  split_ifs with hempty
  · refine ⟨fun h => ?_, fun h => absurd (List.isEmpty_iff.1 hempty) h.1⟩
    cases h
  · constructor
    · intro h
      have hdigits := isDigit_of_digits? h
      rw [digits?_ten hdigits] at h
      exact ⟨fun hnil => hempty (List.isEmpty_iff.2 hnil), hdigits, Option.some.inj h⟩
    · rintro ⟨-, hdigits, rfl⟩
      exact digits?_ten hdigits 0

/-- Without a sign in front a port is just a number that fits. -/
theorem port?_eq_some_iff {s : String} (hsign : ∀ c ∈ s.toList, c ≠ '+') {port : UInt16} :
    port? s = some port ↔
      s ≠ "" ∧ (∀ c ∈ s.toList, c.isDigit = true) ∧ Nat.ofDigitChars 10 s.toList 0 = port.toNat := by
  have hbody : unsigned? UInt16.size s.toList = (decimal? s.toList).filter (· < UInt16.size) := by
    unfold unsigned?
    split
    · rename_i rest hrest
      exact absurd rfl (hsign '+' (hrest ▸ List.mem_cons_self))
    · rfl
  rw [port?, hbody, Option.map_eq_some_iff]
  simp only [Option.filter_eq_some_iff, decimal?_eq_some_iff, decide_eq_true_eq, ne_eq,
    String.toList_eq_nil_iff]
  constructor
  · rintro ⟨n, ⟨⟨hne, hdigits, hn⟩, hlt⟩, rfl⟩
    exact ⟨hne, hdigits, hn.trans (UInt16.toNat_ofNat_of_lt' hlt).symm⟩
  · rintro ⟨hne, hdigits, hn⟩
    exact ⟨port.toNat, ⟨⟨hne, hdigits, hn⟩, port.toNat_lt⟩, UInt16.ofNat_toNat⟩

end Text

/-! ## The form of a serial -/

namespace Serial

variable {serial digits : String}

/-- Has the serial the form of an emulator's, with these digits? -/
def Numbered (serial digits : String) : Prop :=
  serial = "emulator-" ++ digits ∧ digits ≠ "" ∧
    ∀ c ∈ digits.toList, Text.isDecimalDigit c = true

/-- Are these the digits of a port? Leading zeros do not matter. -/
def NamesPort (digits : String) (port : UInt16) : Prop :=
  (∀ c ∈ digits.toList, c.isDigit = true) ∧ Nat.ofDigitChars 10 digits.toList 0 = port.toNat

theorem emulatorDigits?_eq_some_iff : emulatorDigits? serial = some digits ↔ Numbered serial digits := by
  rw [emulatorDigits?, Numbered]
  constructor
  · intro h
    split at h
    · rename_i ds hds
      split_ifs at h with hdigits
      obtain ⟨hne, hall⟩ : ds ≠ [] ∧ ∀ c ∈ ds, Text.isDecimalDigit c = true := by
        simpa using hdigits
      obtain rfl := Option.some.inj h
      refine ⟨?_, by simpa using hne, by simpa using hall⟩
      rw [← String.toList_inj, Text.after?_eq_some_iff.1 hds]
      simp
    · cases h
  · rintro ⟨rfl, hne, hall⟩
    rw [String.toList_append, Text.after?_append]
    simpa [hne] using hall

/-- A serial has the form in one way only. -/
theorem Numbered.unique {other : String} (h : Numbered serial digits) (h' : Numbered serial other) :
    digits = other :=
  Option.some.inj ((emulatorDigits?_eq_some_iff.2 h).symm.trans (emulatorDigits?_eq_some_iff.2 h'))

theorem isEmulator_iff : isEmulator serial = true ↔ ∃ digits, Numbered serial digits := by
  simp only [isEmulator, Option.isSome_iff_exists, emulatorDigits?_eq_some_iff]

theorem consolePort?_eq_some_iff {port : UInt16} :
    consolePort? serial = some port ↔ ∃ digits, Numbered serial digits ∧ NamesPort digits port := by
  rw [consolePort?, Option.bind_eq_some_iff]
  refine exists_congr fun digits => ?_
  rw [emulatorDigits?_eq_some_iff]
  refine and_congr_right fun h => ?_
  have hsign : ∀ c ∈ digits.toList, c ≠ '+' := by
    rintro c hc rfl
    exact absurd (h.2.2 _ hc) (by decide)
  rw [Text.port?_eq_some_iff hsign, NamesPort]
  exact ⟨And.right, fun hport => ⟨h.2.1, hport⟩⟩

end Serial

/-! ## Two answers -/

/-- **Main theorem.** For a snapshot a device is an emulator exactly if its serial has the form of an
emulator's. For a handle of the same serial it is one exactly if, besides, the digits name a port. Neither
depends on anything but the serial, and they agree exactly if the digits, where there are any, name a
port. -/
theorem isEmulator_snapshot_handle (s : Snapshot) :
    (s.isEmulator = true ↔ ∃ digits, Serial.Numbered s.serial digits) ∧
    ((Device.mk s.serial).isEmulator = true ↔
      ∃ digits port, Serial.Numbered s.serial digits ∧ Serial.NamesPort digits port) ∧
    ((Device.mk s.serial).isEmulator = s.isEmulator ↔
      ∀ digits, Serial.Numbered s.serial digits → ∃ port, Serial.NamesPort digits port) := by
  have hsnapshot : s.isEmulator = true ↔ ∃ digits, Serial.Numbered s.serial digits :=
    Serial.isEmulator_iff
  have hhandle : (Device.mk s.serial).isEmulator = true ↔
      ∃ digits port, Serial.Numbered s.serial digits ∧ Serial.NamesPort digits port := by
    rw [Device.isEmulator, Option.isSome_iff_exists]
    simp only [Serial.consolePort?_eq_some_iff]
    exact exists_comm
  refine ⟨hsnapshot, hhandle, ?_⟩
  rw [Bool.eq_iff_iff, hhandle, hsnapshot]
  constructor
  · intro h digits hdigits
    obtain ⟨other, port, hother, hport⟩ := h.2 ⟨digits, hdigits⟩
    exact ⟨port, hdigits.unique hother ▸ hport⟩
  · refine fun h => ⟨fun ⟨digits, _, hdigits, _⟩ => ⟨digits, hdigits⟩, fun ⟨digits, hdigits⟩ => ?_⟩
    obtain ⟨port, hport⟩ := h digits hdigits
    exact ⟨digits, port, hdigits, hport⟩

/-- Behind `emulator-` stands a number that is no port. -/
theorem isEmulator_of_noPort :
    let s : Snapshot := ⟨"emulator-99999", .online, .empty, .empty, [], none⟩
    s.isEmulator = true ∧ (Device.mk s.serial).isEmulator = false := by
  decide

/-- Leading zeros do not matter, and digits of another script name no port. -/
example :
    Serial.consolePort? "emulator-0005554" = some 5554 ∧
    Serial.isEmulator "emulator-५५५४" = true ∧ Serial.consolePort? "emulator-५५५४" = none := by
  decide

end DebugBridge
