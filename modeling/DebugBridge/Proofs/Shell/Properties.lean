import DebugBridge.Proofs.Shell.Output
import DebugBridge.Proofs.Text.ByteOrder
import DebugBridge.Proofs.Text.Pieces

/-!
# Properties in any output

The properties of a device are read off the lines that show one (`Shows`), whatever other lines stand
between them. A line may have blanks around the property and before its value; the name ends at the first
closing bracket, and the value at the last.

Results:
* `property?_eq_some_iff`, a line is read exactly as the property that it shows;
* `pump_patient`, what a receiver that never stops has got in the end;
* `properties_of_lines`, a dictionary is read back from any output that shows its entries.
-/

namespace DebugBridge

open Text

variable {name value : String}

/-! ## Lines that show a property -/

/-- A line shows a property. There may be blanks around it and before the value. -/
def Shows (line name value : String) : Prop :=
  (∃ before gap after : String, (∀ c ∈ before.toList ++ gap.toList ++ after.toList, isBlank c = true) ∧
    line = before ++ "[" ++ name ++ "]:" ++ gap ++ "[" ++ value ++ "]" ++ after) ∧
  name ≠ "" ∧ ']' ∉ name.toList ∧ '\n' ∉ value.toList

theorem bracketed?_eq_some_iff {cs inner : List Char} :
    bracketed? cs = some inner ↔ cs = inner ++ [']'] ∧ '\n' ∉ inner := by
  simp only [bracketed?]
  constructor
  · intro h
    split_ifs at h with hlast hline
    cases h
    obtain ⟨front, rfl⟩ := List.getLast?_eq_some_iff.1 hlast
    rw [List.dropLast_concat] at hline ⊢
    exact ⟨rfl, by simpa using hline⟩
  · rintro ⟨rfl, hline⟩
    rw [if_pos List.getLast?_concat]
    simp [hline]

/-- The characters of a line that shows a property. -/
theorem shows_iff {line : String} :
    Shows line name value ↔ (∃ before gap after : List Char, (∀ c ∈ before, isBlank c = true) ∧
      (∀ c ∈ gap, isBlank c = true) ∧ (∀ c ∈ after, isBlank c = true) ∧
      line.toList = before ++ '[' ::
        (name.toList ++ ']' :: ':' :: (gap ++ '[' :: value.toList) ++ ']' :: after)) ∧
      name ≠ "" ∧ ']' ∉ name.toList ∧ '\n' ∉ value.toList := by
  refine and_congr_left fun _ => ⟨?_, ?_⟩
  · rintro ⟨before, gap, after, hblank, rfl⟩
    simp only [List.mem_append, or_imp, forall_and] at hblank
    exact ⟨before.toList, gap.toList, after.toList, hblank.1.1, hblank.1.2, hblank.2,
      by simp [String.toList_append]⟩
  · rintro ⟨before, gap, after, hbefore, hgap, hafter, hline⟩
    refine ⟨String.ofList before, String.ofList gap, String.ofList after, ?_, ?_⟩
    · simp only [String.toList_ofList, List.mem_append, or_imp, forall_and]
      exact ⟨⟨hbefore, hgap⟩, hafter⟩
    · rw [← String.toList_inj, hline]
      simp [String.toList_append]

theorem property?_of_shows {line : String} (h : Shows line name value) :
    property? line = some (name, value) := by
  obtain ⟨⟨before, gap, after, hbefore, hgap, hafter, hline⟩, hne, hname, hvalue⟩ := shows_iff.1 h
  have hother : ∀ c ∈ name.toList, (c != ']') = true := by
    intro c hc
    rw [bne_iff_ne]
    rintro rfl
    exact hname hc
  have htrim := trim_between (c := '[') (d := ']') hbefore hafter (by decide) (by decide)
    (name.toList ++ ']' :: ':' :: (gap ++ '[' :: value.toList))
  -- The bracket that ends the value is the last character of the trimmed line.
  have hrest : name.toList ++ ']' :: ':' :: (gap ++ '[' :: value.toList) ++ [']'] =
      name.toList ++ ']' :: ':' :: (gap ++ '[' :: (value.toList ++ [']'])) := by simp
  have htake : (name.toList ++ ']' :: ':' :: (gap ++ '[' :: (value.toList ++ [']']))).takeWhile (· != ']') =
      name.toList := by
    rw [List.takeWhile_append_of_pos hother, List.takeWhile_cons_of_neg (by decide), List.append_nil]
  have hdrop : (name.toList ++ ']' :: ':' :: (gap ++ '[' :: (value.toList ++ [']']))).dropWhile (· != ']') =
      ']' :: ':' :: (gap ++ '[' :: (value.toList ++ [']'])) := by
    rw [List.dropWhile_append_of_pos hother, List.dropWhile_cons_of_neg (by decide)]
  have hgap' : trimLeft (gap ++ '[' :: (value.toList ++ [']'])) = '[' :: (value.toList ++ [']']) := by
    rw [trimLeft, List.dropWhile_append_of_pos hgap, List.dropWhile_cons_of_neg (by decide)]
  have hempty : name.toList.isEmpty = false := by simpa using hne
  simp only [property?, hline, htrim, hrest, htake, hdrop, hgap', hempty,
    bracketed?_eq_some_iff.2 ⟨rfl, hvalue⟩, Option.map_some, String.ofList_toList, Bool.false_eq_true,
    if_false]

theorem shows_of_property? {line : String} (h : property? line = some (name, value)) :
    Shows line name value := by
  -- The line is put together again from the outside in: its blanks, its name, then its value.
  obtain ⟨before, after, hbefore, hafter, hline⟩ := exists_trim line.toList
  unfold property? at h
  split at h
  · rename_i rest htrim
    dsimp only at h
    split at h
    · rename_i rest' hdrop
      split at h
      · rename_i rest'' hleft
        split_ifs at h with hempty
        obtain ⟨inner, hinner, hpair⟩ := Option.map_eq_some_iff.1 h
        obtain ⟨rfl, hvalue⟩ := bracketed?_eq_some_iff.1 hinner
        cases hpair
        have hname : ']' ∉ rest.takeWhile (· != ']') := fun hmem => by
          simpa using List.mem_takeWhile_imp hmem
        have hrest : rest = rest.takeWhile (· != ']') ++ ']' :: ':' :: rest' := by
          rw [← hdrop, List.takeWhile_append_dropWhile]
        have hgap : rest' = rest'.takeWhile isBlank ++ '[' :: (inner ++ [']']) := by
          rw [← hleft, trimLeft, List.takeWhile_append_dropWhile]
        refine shows_iff.2 ⟨⟨before, rest'.takeWhile isBlank, after, hbefore,
          fun c hc => List.mem_takeWhile_imp hc, hafter, ?_⟩, ?_, ?_, ?_⟩
        · rw [htrim, hrest, hgap] at hline
          rw [hline]
          simp
        · simpa using hempty
        · rwa [String.toList_ofList]
        · rwa [String.toList_ofList]
      · cases h
    · cases h
  · cases h

/-- A line is read exactly as the property that it shows. -/
theorem property?_eq_some_iff {line : String} :
    property? line = some (name, value) ↔ Shows line name value :=
  ⟨shows_of_property?, property?_of_shows⟩

/-! ## Output -/

/-- A line feed ends the open line. -/
theorem terminatedLines_feed (b : Bytes) :
    terminatedLines (b ++ [10]) = terminatedLines b ++ [decodeLine (openLine b)] ∧
      openLine (b ++ [10]) = [] := by
  have hsplit : (b ++ [10]).splitOn 10 = (b.splitOn 10).dropLast ++ [openLine b] ++ [[]] := by
    rw [splitOn_append]
    simp [List.splitOn_cons_eq_if_modifyHead]
  constructor
  · rw [terminatedLines, hsplit, List.dropLast_concat, List.map_append]
    rfl
  · rw [openLine, hsplit, List.getLast?_concat, Option.getD_some]

/-- What can be a property. -/
structure IsProperty (name value : String) : Prop where
  name_ne : name ≠ ""
  bracket : ']' ∉ name.toList
  name_line : '\n' ∉ name.toList
  value_line : '\n' ∉ value.toList

/-- A line of the output, before its line feed. -/
inductive OutputLine
  /-- The line of a property; a carriage return may follow. -/
  | property (name value : String) (returned : Bool)
  /-- A line that shows none. -/
  | stray (bytes : Bytes) (one_line : 10 ∉ bytes)
    (shows_none : ∀ name value, ¬ Shows (decodeLine bytes) name value)

namespace OutputLine

/-- How a property is printed. -/
def printed (name value : String) : String := "[" ++ name ++ "]: [" ++ value ++ "]"

/-- What stands before the line feed. -/
def bytes : OutputLine → Bytes
  | property name value returned =>
    Bytes.ofString (printed name value) ++ if returned then [13] else []
  | stray bytes _ _ => bytes

/-- The property of a line. -/
def entry? : OutputLine → Option (String × String)
  | property name value _ => some (name, value)
  | stray _ _ _ => none

/-- The bytes of some lines. -/
def sent (lines : List OutputLine) : Bytes := lines.flatMap fun l => l.bytes ++ [10]

theorem shows_printed (h : IsProperty name value) : Shows (printed name value) name value := by
  have hgap : ("".toList ++ " ".toList ++ "".toList).all isBlank = true := by decide
  refine ⟨⟨"", " ", "", List.all_eq_true.1 hgap, ?_⟩, h.name_ne, h.bracket, h.value_line⟩
  simp [printed, String.append_assoc]

/-- A carriage return after a property is not part of its line. -/
theorem decodeLine_property (name value : String) (returned : Bool) :
    decodeLine (bytes (property name value returned)) = printed name value := by
  obtain ⟨front, hfront⟩ : ∃ front, Bytes.ofString (printed name value) = front ++ [93] :=
    ⟨_, Bytes.ofString_append _ _⟩
  have hlast : (Bytes.ofString (printed name value)).getLast? ≠ some 13 := by
    rw [hfront, List.getLast?_concat]
    decide
  rw [decodeLine, bytes]
  cases returned with
  | false =>
    rw [if_neg Bool.false_ne_true, List.append_nil, if_neg hlast, Utf8.lossy_ofString]
  | true =>
    rw [if_pos rfl, if_pos List.getLast?_concat, List.dropLast_concat, Utf8.lossy_ofString]

/-- A line is read as what it is. -/
theorem property?_decodeLine {l : OutputLine} (h : ∀ e ∈ l.entry?, IsProperty e.1 e.2) :
    property? (decodeLine l.bytes) = l.entry? := by
  cases l with
  | property name value returned =>
    rw [decodeLine_property]
    exact property?_of_shows (shows_printed (h (name, value) rfl))
  | stray bytes one_line shows_none =>
    refine Option.eq_none_iff_forall_ne_some.2 fun e he => ?_
    exact shows_none e.1 e.2 (shows_of_property? he)

theorem feed_not_mem_bytes {l : OutputLine} (h : ∀ e ∈ l.entry?, IsProperty e.1 e.2) : 10 ∉ l.bytes := by
  cases l with
  | property name value returned =>
    obtain ⟨-, -, hname, hvalue⟩ := h (name, value) rfl
    have hprinted : '\n' ∉ (printed name value).toList := by
      simp [printed, String.toList_append, hname, hvalue]
    have hreturn : (10 : UInt8) ∉ if returned then [13] else [] := by cases returned <;> decide
    rw [bytes, List.mem_append, not_or]
    exact ⟨fun hmem => hprinted (Bytes.mem_of_mem_ofString (by decide) hmem), hreturn⟩
  | stray bytes one_line shows_none => exact one_line

theorem terminatedLines_sent {lines : List OutputLine}
    (h : ∀ l ∈ lines, ∀ e ∈ l.entry?, IsProperty e.1 e.2) :
    terminatedLines (sent lines) = lines.map fun l => decodeLine l.bytes := by
  induction lines with
  | nil => rfl
  | cons l lines ih =>
    obtain ⟨hl, hlines⟩ := List.forall_mem_cons.1 h
    have hsplit : (sent (l :: lines)).splitOn 10 = l.bytes :: (sent lines).splitOn 10 := by
      rw [sent, List.flatMap_cons, List.append_assoc, List.singleton_append,
        List.splitOn_append_cons_self_of_not_mem (feed_not_mem_bytes hl)]
      rfl
    rw [terminatedLines, hsplit, List.dropLast_cons_of_ne_nil (List.splitOn_ne_nil 10 _), List.map_cons,
      List.map_cons, ← ih hlines]
    rfl

theorem openLine_sent (lines : List OutputLine) : openLine (sent lines) = [] := by
  rcases List.eq_nil_or_concat lines with rfl | ⟨front, l, rfl⟩
  · rfl
  · have hfeed : sent (front.concat l) = sent front ++ l.bytes ++ [10] := by
      simp [sent, List.concat_eq_append]
    rw [hfeed, (terminatedLines_feed _).2]

/-- Each line is read as what it is, whether or not the last has its line feed. -/
theorem filterMap_linesOf {lines : List OutputLine}
    (h : ∀ l ∈ lines, ∀ e ∈ l.entry?, IsProperty e.1 e.2) {b : Bytes}
    (hb : b = sent lines ∨ b ++ [10] = sent lines) :
    (linesOf b).filterMap property? = lines.filterMap entry? := by
  have hlines : (terminatedLines (sent lines)).filterMap property? = lines.filterMap entry? := by
    rw [terminatedLines_sent h, List.filterMap_map]
    refine List.filterMap_congr fun l hl => ?_
    rw [Function.comp_apply, property?_decodeLine (h l hl)]
  rcases hb with rfl | hb
  · rw [linesOf, openLine_sent, List.isEmpty_nil, if_pos rfl, List.append_nil, hlines]
  · rw [← hlines, ← hb, linesOf, (terminatedLines_feed b).1, List.filterMap_append, List.filterMap_append]
    split_ifs with hopen
    · have hempty : property? (decodeLine []) = none := by decide
      rw [List.isEmpty_iff.1 hopen, List.filterMap_cons_none hempty]
    · rfl

end OutputLine

/-! ## The dictionary -/

namespace Shell

/-- A receiver that never stops, and for which batches are as good as the lines in them, has got all the
lines in the end. By induction on the chunks that are still to be read. -/
theorem pump_patient {σ : Type} {accept : σ → List String → σ} (hnil : ∀ s, accept s [] = s)
    (happend : ∀ s a b, accept s (a ++ b) = accept (accept s a) b) {sp : LineSplitter} {seen : Bytes}
    (hsp : sp.pending = openLine seen) (s : σ) (chunks : List Bytes) :
    pump (.patient accept) sp (accept s (terminatedLines seen)) .closed chunks =
      (accept s (linesOf (seen ++ chunks.flatten)), .complete) := by
  induction chunks generalizing sp seen with
  | nil =>
    rw [List.flatten_nil, List.append_nil, LineSplitter.linesOf_of_openLine hsp, happend]
    cases hlast : sp.finish.1 with
    | none =>
      simp only [pump, hlast, Option.toList_none, hnil]
      rfl
    | some last =>
      simp only [pump, hlast, Option.toList_some]
      rfl
  | cons chunk chunks ih =>
    obtain ⟨hlines, hopen⟩ := LineSplitter.feed_of_openLine hsp chunk
    have hoffer : (Receiver.patient accept).offer (accept s (terminatedLines seen)) (sp.feed chunk).1 =
        accept s (terminatedLines (seen ++ chunk)) := by
      rw [← hlines, happend, Receiver.offer]
      split_ifs with hempty
      · rw [List.isEmpty_iff.1 hempty, hnil]
      · rfl
    have ih := ih hopen
    rw [← hoffer, List.append_assoc] at ih
    exact ih

theorem addProperties_append (dict : Dict String) (a b : List String) :
    addProperties dict (a ++ b) = addProperties (addProperties dict a) b := by
  rw [addProperties, addProperties, addProperties, List.filterMap_append, List.foldl_append]

variable {D S : Type} [Daemon D S]

/-- The properties that are found are those on the lines of the output, however it is cut into reads. -/
theorem properties_of_grants {d : D} {serial : String} {output : Stream}
    (hgrant : Net.Grants d (service serial "getprop") output) (hclosed : output.ending = .closed)
    (limit : Duration) :
    (properties serial limit d).1 = .ok (addProperties .empty (linesOf output.bytes)) := by
  have hsp : LineSplitter.empty.pending = openLine [] := rfl
  have hpump : pump .properties .empty (addProperties .empty (terminatedLines [])) .closed
      (output.reads readSize) =
        (addProperties .empty (linesOf ([] ++ (output.reads readSize).flatten)), .complete) :=
    pump_patient (fun _ => rfl) addProperties_append hsp .empty (output.reads readSize)
  rw [Stream.flatten_reads (by decide), List.nil_append] at hpump
  have hrun := run_eq_pump hgrant limit .properties .empty
  rw [hclosed] at hrun
  have hresult : (run serial "getprop" limit .properties .empty d).1 =
      (addProperties .empty (linesOf output.bytes), .ok ()) :=
    hrun.trans (congrArg (fun p => (p.1, p.2.result "getprop" limit)) hpump)
  rcases hout : run serial "getprop" limit .properties .empty d with ⟨result, d'⟩
  rw [hout] at hresult
  obtain rfl : result = (addProperties .empty (linesOf output.bytes), .ok ()) := hresult
  simp only [properties, Shell.output, hout]

/-- **Main theorem.** The daemon grants `getprop`, and its output shows each entry of a dictionary once, in
any order, among any lines that show no property. Each line ends in a line feed, with a carriage return
before it or not, and the last may lack it. However the output is cut into reads, the dictionary is what
the device is found to have. -/
theorem properties_of_lines {d : D} {serial : String} {output : Stream} {dict : Dict String}
    {lines : List OutputLine} (hgrant : Net.Grants d (service serial "getprop") output)
    (hclosed : output.ending = .closed)
    (hdict : ∀ e ∈ dict.entries, IsProperty e.1 e.2)
    (hlines : (lines.filterMap OutputLine.entry?).Perm dict.entries)
    (hbytes : output.bytes = OutputLine.sent lines ∨ output.bytes ++ [10] = OutputLine.sent lines)
    (limit : Duration) : (properties serial limit d).1 = .ok dict := by
  have hentries : ∀ l ∈ lines, ∀ e ∈ l.entry?, IsProperty e.1 e.2 := fun l hl e he =>
    hdict e (hlines.mem_iff.1 (List.mem_filterMap.2 ⟨l, hl, he⟩))
  have hall : addProperties .empty (linesOf output.bytes) = dict := by
    rw [addProperties, OutputLine.filterMap_linesOf hentries hbytes]
    exact Dict.ofList_of_perm hlines
  rw [properties_of_grants hgrant hclosed, hall]

/-- Output that is cut inside a line, with a property whose value looks like another one, and a remark. -/
theorem properties_of_cutLines :
    let chunks := [Bytes.ofString "[b]: [x]: [y]\r", Bytes.ofString "\nno property\n[a", Bytes.ofString "]: []"]
    let d := Script.saying "" ⟨okayToken, chunks, .closed⟩
    let dict : Dict String := Dict.empty.insert "a" "" |>.insert "b" "x]: [y"
    Net.Grants d (service "s" "getprop") ⟨[], chunks ++ [[]], .closed⟩ ∧
      (properties "s" .zero d).1 = .ok dict := by
  intro chunks d dict
  have hgrant : Net.Grants d (service "s" "getprop") ⟨[], chunks ++ [[]], .closed⟩ :=
    ⟨_, _, rfl, rfl, by decide⟩
  have hstray : ∀ name value, ¬ Shows (decodeLine (Bytes.ofString "no property")) name value := by
    intro name value hshows
    have hnone : property? (decodeLine (Bytes.ofString "no property")) = none := by decide
    rw [property?_of_shows hshows] at hnone
    cases hnone
  have hentries : dict.entries = [("a", ""), ("b", "x]: [y")] := by decide
  have hdict : ∀ e ∈ dict.entries, IsProperty e.1 e.2 := by
    intro e he
    rw [hentries] at he
    rcases List.mem_pair.1 he with rfl | rfl
    · exact ⟨by decide, by decide, by decide, by decide⟩
    · exact ⟨by decide, by decide, by decide, by decide⟩
  let lines : List OutputLine := [.property "b" "x]: [y" true,
    .stray (Bytes.ofString "no property") (by decide) hstray, .property "a" "" false]
  have hperm : (lines.filterMap OutputLine.entry?).Perm dict.entries := by
    rw [hentries]
    exact .swap _ _ _
  have hbytes : (chunks ++ [[]]).flatten ++ [10] = OutputLine.sent lines := rfl
  exact ⟨hgrant, properties_of_lines hgrant rfl hdict hperm (.inr hbytes) .zero⟩

/-- A line without the blank is not printed for any property, but it is read as one. -/
theorem properties_of_blankless :
    let d := Script.saying "" (.ofBytes (okayToken ++ Bytes.ofString "[a]:[b]\n") .closed)
    (∀ name value, "[a]:[b]" ≠ OutputLine.printed name value) ∧
      Net.Grants d (service "s" "getprop") (.ofBytes (Bytes.ofString "[a]:[b]\n") .closed) ∧
      (properties "s" .zero d).1 = .ok (Dict.empty.insert "a" "b") ∧
      (properties "s" .zero d).1 ≠ .ok .empty := by
  intro d
  have hgrant : Net.Grants d (service "s" "getprop")
      (.ofBytes (Bytes.ofString "[a]:[b]\n") .closed) := ⟨_, _, rfl, rfl, by decide⟩
  have hfound : addProperties .empty (linesOf (Bytes.ofString "[a]:[b]\n")) = Dict.empty.insert "a" "b" := by
    decide
  have hread : (properties "s" .zero d).1 = .ok (Dict.empty.insert "a" "b") := by
    rw [properties_of_grants hgrant rfl, Stream.bytes_ofBytes, hfound]
  refine ⟨fun name value h => ?_, hgrant, hread, ?_⟩
  · have hblank : ' ' ∈ (OutputLine.printed name value).toList := by simp [OutputLine.printed]
    rw [← h] at hblank
    exact absurd hblank (by decide)
  · rw [hread]
    decide

end Shell

end DebugBridge
