import DebugBridge.MemoryDaemon.Basic
import DebugBridge.Proofs.Text.Utf8

/-!
# Requests reach the daemon

The daemon works on a unit as soon as it has come to its last byte (`receive_unit`). A request as a
client encodes it is such a unit, and its service is served.

Results: `receive_encodeRequest`.
-/

namespace DebugBridge.MemoryDaemon

variable {bytes : Bytes} {d d' : MemoryDaemon} {service next : Service} {answer : Bytes}

/-! ## Units -/

theorem workOff_nil (d : MemoryDaemon) (service : Service) (answer : Bytes) :
    d.workOff ⟨service, []⟩ answer = (d, ⟨service, []⟩, answer) := by
  have hnone : nextUnit ⟨service, []⟩ = none := by
    cases service with
    | greeting => decide
    | _ => rfl
  rw [workOff, hnone]

/-- A unit is worked on, and then what has come behind it. -/
theorem workOff_unit {pending whole more : Bytes}
    (hunit : nextUnit ⟨service, pending⟩ = some (whole, more)) (hmore : more.length < pending.length)
    (htake : d.take service whole = (d', next, answer)) (before : Bytes) :
    d.workOff ⟨service, pending⟩ before = d'.workOff ⟨next, more⟩ (before ++ answer) := by
  rw [workOff, hunit]
  simp only [hmore, if_true, htake]

/-- A unit that has come to its last byte is worked on. -/
theorem receive_unit (d : MemoryDaemon) {pending b whole : Bytes} (hwhole : pending ++ b = whole)
    (hne : whole ≠ []) (hunit : nextUnit ⟨service, whole⟩ = some (whole, []))
    (htake : d.take service whole = (d', next, answer)) :
    Daemon.receive d ⟨service, pending⟩ b = ⟨d', ⟨next, []⟩, answer, ending ⟨next, []⟩⟩ := by
  have hwork : d.workOff ⟨service, pending ++ b⟩ [] = (d', ⟨next, []⟩, answer) := by
    rw [hwhole, workOff_unit hunit (List.length_pos_iff.2 hne) htake, workOff_nil, List.nil_append]
  show (⟨_, _, _, _⟩ : Reaction _ _) = _
  rw [hwork]

/-! ## The digits before a request -/

theorem utf8EncodeChar_hexDigitUpper : ∀ n < 16,
    (String.utf8EncodeChar (Text.hexDigitUpper n)).length = 1 ∧
      (String.utf8EncodeChar (Text.hexDigitUpper n)).map (fun b => Char.ofNat b.toNat) =
        [Text.hexDigitUpper n] ∧
      Text.hexDigitUpper n ≠ '+' := by
  decide

theorem announced?_fourDigits {n : Nat} (h : n ≤ longestRequest) :
    announced? (Bytes.ofString (String.ofList (Text.fourDigits Text.hexDigitUpper n))) = some n ∧
      (Bytes.ofString (String.ofList (Text.fourDigits Text.hexDigitUpper n))).length = 4 := by
  have hdigit := fun m => utf8EncodeChar_hexDigitUpper (m % 16) (Nat.mod_lt m (by omega))
  rw [Bytes.ofString_eq_flatMap, String.toList_ofList]
  constructor
  · have hchars : ((Text.fourDigits Text.hexDigitUpper n).flatMap String.utf8EncodeChar).map
        (fun b => Char.ofNat b.toNat) = Text.fourDigits Text.hexDigitUpper n := by
      simp only [Text.fourDigits, List.flatMap_cons, List.flatMap_nil, List.map_append,
        (hdigit _).2.1, List.map_nil]
      rfl
    have hplus : ∀ rest, Text.fourDigits Text.hexDigitUpper n ≠ '+' :: rest := by
      intro rest hrest
      exact (hdigit _).2.2 (List.cons.inj hrest).1
    rw [announced?, hchars]
    split
    · exact absurd ‹_› (hplus _)
    · exact Text.hexadecimal?_fourDigits h
  · simp only [Text.fourDigits, List.flatMap_cons, List.flatMap_nil, List.length_append,
      (hdigit _).1, List.length_nil]

/-! ## Services -/

/-- A request of which all has come is served. -/
theorem receive_encodeRequest (d : MemoryDaemon) (selected : Option String) {service : String}
    (h : encodeRequest service = .ok bytes)
    (hserve : MemoryDaemon.serve { d with requests := d.requests ++ [service] } selected service =
      (d', next, answer)) :
    Daemon.receive d ⟨.request selected, []⟩ bytes =
      ⟨d', ⟨next, []⟩, answer, ending ⟨next, []⟩⟩ := by
  have hlong : ¬ longestRequest < (Bytes.ofString service).length := by
    intro hlong
    simp only [encodeRequest, if_pos hlong] at h
    cases h
  obtain ⟨hannounced, hdigits⟩ := announced?_fourDigits (Nat.not_lt.1 hlong)
  simp only [encodeRequest, if_neg hlong, Except.ok.injEq] at h
  have hlength := congrArg List.length h
  rw [List.length_append, hdigits] at hlength
  have htake : announced? (bytes.take 4) = some (Bytes.ofString service).length := by
    rw [← h, List.take_left' hdigits, hannounced]
  have hdrop : bytes.drop 4 = Bytes.ofString service := by rw [← h, List.drop_left' hdigits]
  refine receive_unit d (List.nil_append _) ?_ ?_ ?_
  · apply List.ne_nil_of_length_pos
    omega
  · have hfour : ¬ bytes.length < 4 := by omega
    simp only [nextUnit, if_neg hfour, htake, hlength, Nat.lt_irrefl, if_false,
      List.take_length, List.drop_length]
  · simp only [take, htake, hdrop, Utf8.lossy_ofString]
    exact hserve

end DebugBridge.MemoryDaemon
