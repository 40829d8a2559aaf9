import DebugBridge.Emulator.Console
import DebugBridge.Proofs.Text.ByteOrder
import DebugBridge.Proofs.Text.Pieces
import DebugBridge.Proofs.Text.Utf8
import DebugBridge.Proofs.Wire.Framing
import DebugBridge.Wire.Script

/-!
# The name that a console gives

A console answers in lines, and what a line says is told from what it is: a line `OK` ends the answer, a
line that begins with `KO` is a refusal, and any other line is part of the answer. So a name is read as it
is given, whatever lines the console greets with, unless it begins with `KO` itself.

Results:
* `line_of_sent`, a line is read off the bytes in which it is sent;
* `gives_reply`, `reply_of_refusal`, an answer ends at the first line that is no part of it;
* `avdName_of_answers`, what comes of asking for a name.
-/

namespace DebugBridge.Console

open Text

variable {s : Stream} {rest : Bytes}

/-! ## Lines -/

/-- A line as a console sends it. -/
structure SentLine where
  /-- Its text. -/
  text : String
  /-- Does a carriage return stand before its line feed? -/
  returned : Bool
  deriving Repr, DecidableEq

namespace SentLine

/-- What stands before the line feed. -/
def body (l : SentLine) : String := if l.returned then l.text ++ "\r" else l.text

/-- The bytes of a line. -/
def sent (l : SentLine) : Bytes := Bytes.ofString l.body ++ [10]

theorem newline_not_mem_body {l : SentLine} (h : '\n' ∉ l.text.toList) : '\n' ∉ l.body.toList := by
  rw [body]
  split
  · rw [String.toList_append, List.mem_append, not_or]
    exact ⟨h, by decide⟩
  · exact h

/-- However a line ends, its text is the same up to blanks at the end. -/
theorem trimRight_body (l : SentLine) :
    trimRight (dropReturn l.body.toList) = trimRight l.text.toList := by
  rw [trimRight_dropReturn, body]
  split
  · rw [String.toList_append, trimRight_append_of_blank (List.all_eq_true.1 (by decide))]
  · rfl

end SentLine

theorem bareLine_ofString (t : String) :
    bareLine (Bytes.ofString t) = Bytes.ofString (String.ofList (dropReturn t.toList)) := by
  rcases List.eq_nil_or_concat t.toList with hnil | ⟨front, c, hconcat⟩
  · rw [String.toList_eq_nil_iff.1 hnil]
    rfl
  rw [List.concat_eq_append] at hconcat
  have hbytes : Bytes.ofString t = Bytes.ofString (String.ofList front) ++ String.utf8EncodeChar c := by
    simp only [Bytes.ofString_eq_flatMap, String.toList_ofList, hconcat, List.flatMap_append,
      List.flatMap_singleton]
  by_cases hc : c = '\r'
  · subst hc
    have hreturn : String.utf8EncodeChar '\r' = [13] := by decide
    rw [hbytes, hreturn, hconcat, bareLine, if_pos List.getLast?_concat, List.dropLast_concat,
      dropReturn_concat]
  · have hlast : (Bytes.ofString t).getLast? ≠ some 13 := by
      intro hlast
      rw [hbytes, List.getLast?_append_of_ne_nil _ (String.utf8EncodeChar_ne_nil)] at hlast
      exact hc (Bytes.utf8EncodeChar_of_mem (by decide) (List.mem_of_getLast? hlast)).1
    have hkeep : dropReturn t.toList = t.toList := by
      rw [hconcat, dropReturn, List.getLast?_concat, if_neg (by simpa using hc)]
    rw [bareLine, if_neg hlast, hkeep, String.ofList_toList]

/-- A line is read off the bytes in which it is sent, and nothing more is taken. -/
theorem line_of_sent {l : SentLine} (hl : '\n' ∉ l.text.toList) (h : s.bytes = l.sent ++ rest) :
    line s = (.ok (some (Bytes.ofString (String.ofList (dropReturn l.body.toList)))),
      .ofBytes rest s.ending) := by
  have hfeed : ∀ b ∈ Bytes.ofString l.body, (b != 10) = true := by
    intro b hb
    rw [bne_iff_ne]
    rintro rfl
    exact SentLine.newline_not_mem_body hl (Bytes.mem_of_mem_ofString (by decide) hb)
  have hbytes : s.bytes = Bytes.ofString l.body ++ 10 :: rest := by
    rw [h, SentLine.sent, List.append_assoc, List.singleton_append]
  have hdrop : s.bytes.dropWhile (· != 10) = 10 :: rest := by
    rw [hbytes, List.dropWhile_append_of_pos hfeed, List.dropWhile_cons_of_neg (by decide)]
  have htake : s.bytes.takeWhile (· != 10) = Bytes.ofString l.body := by
    rw [hbytes, List.takeWhile_append_of_pos hfeed, List.takeWhile_cons_of_neg (by decide),
      List.append_nil]
  simp only [line, hdrop, htake, bareLine_ofString]

/-! ## Answers -/

/-- The error when the console refuses for a reason. -/
def refusalError (reason : String) : Error := .protocol s!"emulator console refused: {reason}"

/-- One line of an answer, and what follows it. -/
theorem reply_eq (s : Stream) (found : List String) :
    reply s found =
      match line s with
      | (.error e, s') => (.error e, s')
      | (.ok none, s') => (.error (.failed (.protocol "emulator console closed the connection")), s')
      | (.ok (some bytes), s') =>
        match Utf8.text? bytes with
        | .error defect => (.error (.failed (.io defect.message)), s')
        | .ok text =>
          if trimRight text.toList = ['O', 'K'] then (.ok found, s')
          else match after? ['K', 'O'] (trimRight text.toList) with
            | some reason =>
              (.error (.failed (refusalError (String.ofList (trim (reason.dropWhile (· == ':')))))), s')
            | none => reply s' (found ++ [trimmedRight text]) := by
  rw [reply]
  -- The line is matched together with the proof that the recursion ends by, so it is not rewritten in
  -- place.
  split <;> rename_i h <;> rw [h]
  rfl

/-- What a line that is a text does to the answer that it stands in. -/
theorem reply_of_text {next : Stream} {text : String}
    (hline : line s = (.ok (some (Bytes.ofString text)), next)) (found : List String) :
    reply s found =
      if trimRight text.toList = ['O', 'K'] then (.ok found, next)
      else match after? ['K', 'O'] (trimRight text.toList) with
        | some reason =>
          (.error (.failed (refusalError (String.ofList (trim (reason.dropWhile (· == ':')))))), next)
        | none => reply next (found ++ [trimmedRight text]) := by
  rw [reply_eq, hline]
  simp only [Utf8.text?_ofString]

theorem reply_of_line {l : SentLine} (hl : '\n' ∉ l.text.toList) (h : s.bytes = l.sent ++ rest)
    (found : List String) :
    reply s found =
      if trimRight l.text.toList = ['O', 'K'] then (.ok found, .ofBytes rest s.ending)
      else match after? ['K', 'O'] (trimRight l.text.toList) with
        | some reason =>
          (.error (.failed (refusalError (String.ofList (trim (reason.dropWhile (· == ':')))))),
            .ofBytes rest s.ending)
        | none => reply (.ofBytes rest s.ending) (found ++ [trimmedRight l.text]) := by
  rw [reply_of_text (line_of_sent hl h), trimmedRight, String.toList_ofList, SentLine.trimRight_body]
  rfl

/-- A text that stands for itself in an answer: one line that neither ends the answer nor refuses it. -/
structure IsPlain (text : String) : Prop where
  one_line : '\n' ∉ text.toList
  not_okay : trimmedRight text ≠ "OK"
  not_refusal : ¬ "KO".toList <+: text.toList

/-- What is left of a plain text at its end neither ends the answer nor refuses it. -/
theorem IsPlain.trimRight {text : String} (h : IsPlain text) :
    trimRight text.toList ≠ ['O', 'K'] ∧ after? ['K', 'O'] (trimRight text.toList) = none := by
  refine ⟨fun heq => h.not_okay (congrArg String.ofList heq), ?_⟩
  rw [Option.eq_none_iff_forall_ne_some]
  intro reason hreason
  have hlead : "KO".toList <+: Text.trimRight text.toList := ⟨reason, (after?_eq_some_iff.1 hreason).symm⟩
  exact h.not_refusal (hlead.trans (List.rdropWhile_prefix isBlank _))

theorem reply_of_plain {l : SentLine} (hl : IsPlain l.text) (h : s.bytes = l.sent ++ rest)
    (found : List String) :
    reply s found = reply (.ofBytes rest s.ending) (found ++ [trimmedRight l.text]) := by
  rw [reply_of_line hl.one_line h, if_neg hl.trimRight.1, hl.trimRight.2]

/-- An answer is the lines up to the first that ends it. -/
theorem gives_reply {lines : List SentLine} (hlines : ∀ l ∈ lines, IsPlain l.text) (returned : Bool)
    (h : s.bytes = lines.flatMap SentLine.sent ++ (SentLine.sent ⟨"OK", returned⟩ ++ rest))
    (found : List String) :
    Read.Gives (fun s => reply s found) s (found ++ lines.map fun l => trimmedRight l.text) rest := by
  induction lines generalizing s found with
  | nil =>
    refine ⟨.ofBytes rest s.ending, ?_, Stream.bytes_ofBytes rest _, rfl⟩
    have hokay : '\n' ∉ "OK".toList ∧ trimRight "OK".toList = ['O', 'K'] := by decide
    rw [List.map_nil, List.append_nil]
    exact (reply_of_line hokay.1 h found).trans (if_pos hokay.2)
  | cons l lines ih =>
    obtain ⟨hl, hlines⟩ := List.forall_mem_cons.1 hlines
    rw [List.flatMap_cons, List.append_assoc] at h
    obtain ⟨s', hs', hbytes, hending⟩ :=
      ih hlines (Stream.bytes_ofBytes _ s.ending) (found ++ [trimmedRight l.text])
    refine ⟨s', (reply_of_plain hl h found).trans ?_, hbytes, hending⟩
    rw [List.append_assoc, List.singleton_append] at hs'
    exact hs'

theorem reply_of_refusal {l : SentLine} {reason : List Char} (hl : '\n' ∉ l.text.toList)
    (hrefusal : trimRight l.text.toList = 'K' :: 'O' :: reason) (h : s.bytes = l.sent ++ rest)
    (found : List String) :
    reply s found =
      (.error (.failed (refusalError (String.ofList (trim (reason.dropWhile (· == ':')))))),
        .ofBytes rest s.ending) := by
  have hokay : 'K' :: 'O' :: reason ≠ ['O', 'K'] := by simp
  have hafter : after? ['K', 'O'] ('K' :: 'O' :: reason) = some reason := after?_eq_some_iff.2 rfl
  rw [reply_of_line hl h, hrefusal, if_neg hokay, hafter]

/-! ## Names -/

/-- Can a character stand in the name of a virtual device? -/
def isNameLetter (c : Char) : Bool := c.isAlphanum || c == '.' || c == '_' || c == '-'

theorem not_isBlank_of_isNameLetter {c : Char} (h : isNameLetter c = true) :
    isBlank c = false ∧ c ≠ ':' := by
  have hsmall : ∀ n < 128, isNameLetter (Char.ofNat n) = true →
      isBlank (Char.ofNat n) = false ∧ Char.ofNat n ≠ ':' := by decide
  have hc : c.toNat < 128 := by
    delta isNameLetter Char.isAlphanum Char.isAlpha Char.isUpper Char.isLower Char.isDigit at h
    have hletter : (((65 ≤ c.toNat ∧ c.toNat ≤ 90 ∨ 97 ≤ c.toNat ∧ c.toNat ≤ 122) ∨
        48 ≤ c.toNat ∧ c.toNat ≤ 57) ∨ c = '.' ∨ c = '_') ∨ c = '-' := by
      simpa [UInt32.le_iff_toNat_le, or_assoc] using h
    rcases hletter with (hascii | rfl | rfl) | rfl
    · omega
    all_goals decide
  rw [← Char.ofNat_toNat c] at h ⊢
  exact hsmall c.toNat hc h

/-- The name of a virtual device. The word that ends an answer is none. -/
structure IsAvdName (name : String) : Prop where
  ne : name ≠ ""
  letters : ∀ c ∈ name.toList, isNameLetter c = true
  not_okay : name ≠ "OK"

namespace IsAvdName

variable {name : String}

theorem not_blank (h : IsAvdName name) : ∀ c ∈ name.toList, isBlank c = false := fun c hc =>
  (not_isBlank_of_isNameLetter (h.letters c hc)).1

theorem one_line (h : IsAvdName name) : '\n' ∉ name.toList := fun hmem =>
  absurd (h.not_blank _ hmem) (by decide)

theorem trimmed_trimmedRight (h : IsAvdName name) : trimmed (trimmedRight name) = name := by
  rw [trimmedRight, trimRight_eq_self h.not_blank, String.ofList_toList, trimmed,
    trim_eq_self h.not_blank, String.ofList_toList]

/-- Nothing is cut off the reason that a name is taken for. -/
theorem trim_reason {reason : String} (h : IsAvdName name) (hreason : name = "KO" ++ reason) :
    trim (reason.toList.dropWhile (· == ':')) = reason.toList := by
  have hletters : ∀ c ∈ reason.toList, isBlank c = false ∧ c ≠ ':' := by
    intro c hc
    refine not_isBlank_of_isNameLetter (h.letters c ?_)
    rw [hreason, String.toList_append]
    exact List.mem_append_right _ hc
  have hcolon : reason.toList.dropWhile (· == ':') = reason.toList := by
    rw [List.dropWhile_eq_self_iff]
    intro hne
    simpa using (hletters _ (List.getElem_mem hne)).2
  rw [hcolon, trim_eq_self fun c hc => (hletters c hc).1]

/-- A name that does not begin as a refusal stands for itself. -/
theorem isPlain (h : IsAvdName name) (hrefusal : ¬ "KO".toList <+: name.toList) : IsPlain name where
  one_line := h.one_line
  not_okay := by
    rw [trimmedRight, trimRight_eq_self h.not_blank, String.ofList_toList]
    exact h.not_okay
  not_refusal := hrefusal

end IsAvdName

/-- A line of a banner, which does not ask for a token either. -/
structure IsRemark (text : String) : Prop extends IsPlain text where
  not_asking : ¬ Occurs "Authentication required" text

theorem IsRemark.contains_eq_false {text : String} (h : IsRemark text) :
    contains (trimmedRight text) "Authentication required" = false := by
  rw [Bool.eq_false_iff, Ne, contains_iff]
  intro hasking
  have hprefix : (trimmedRight text).toList <+: text.toList := by
    rw [trimmedRight, String.toList_ofList]
    exact List.rdropWhile_prefix isBlank _
  exact h.not_asking (hasking.trans hprefix.isInfix)

section

variable {D S : Type} {w : Wire D S}

theorem awaitReply_run {lines : List SentLine} (hlines : ∀ l ∈ lines, IsPlain l.text) (returned : Bool)
    (h : w.stream.bytes = lines.flatMap SentLine.sent ++ (SentLine.sent ⟨"OK", returned⟩ ++ rest)) :
    ∃ s', (awaitReply : Call D S _).run w =
        (.ok (lines.map fun l => trimmedRight l.text), { w with stream := s' }) ∧ s'.bytes = rest := by
  obtain ⟨s', hs', hbytes, -⟩ := gives_reply hlines returned h []
  exact ⟨s', Call.run_within _ hs', hbytes⟩

theorem awaitReply_of_refusal {l : SentLine} {reason : List Char} (hl : '\n' ∉ l.text.toList)
    (hrefusal : trimRight l.text.toList = 'K' :: 'O' :: reason) (h : w.stream.bytes = l.sent ++ rest) :
    (awaitReply : Call D S _).run w =
      (.error (refusalError (String.ofList (trim (reason.dropWhile (· == ':'))))),
        { w with stream := .ofBytes rest w.stream.ending }) := by
  have hreply : (show Read (List String) from fun s => reply s []).run w.stream = _ :=
    reply_of_refusal hl hrefusal h []
  rw [awaitReply, Call.within, Call.run_reading, hreply]

end

variable {D S : Type} [Daemon D S] {w : Wire D S}

/-- What a console is asked. -/
def question : Bytes := Bytes.ofString "avd name\r\n"

/-- What is received once the name has been asked for. -/
def asked (w : Wire D S) : Bytes :=
  w.stream.bytes ++ (Daemon.receive w.daemon w.session question).answer

theorem command_run (w : Wire D S) :
    ∃ w', (command "avd name" : Call D S Unit).run w = (.ok (), w') ∧ w'.stream.bytes = asked w :=
  ⟨_, rfl, Stream.bytes_extend _ _ _⟩

theorem askName_of_plain {name : SentLine} (hname : IsAvdName name.text) (hplain : IsPlain name.text)
    (returned : Bool) (h : asked w = name.sent ++ (SentLine.sent ⟨"OK", returned⟩ ++ rest)) :
    (askName.run w).1 = .ok (some name.text) := by
  obtain ⟨w', hcommand, hbytes⟩ := command_run w
  have hlines : ∀ l ∈ [name], IsPlain l.text := by simpa using hplain
  have hsent : w'.stream.bytes =
      [name].flatMap SentLine.sent ++ (SentLine.sent ⟨"OK", returned⟩ ++ rest) := by
    rw [hbytes, h, List.flatMap_singleton]
  obtain ⟨s', hreply, -⟩ := awaitReply_run hlines returned hsent
  have hfind : (([name].map fun l => trimmedRight l.text).map trimmed).find? (! ·.isEmpty) =
      some name.text := by
    have hne : name.text.isEmpty = false := by simpa using hname.ne
    simp only [List.map_cons, List.map_nil, hname.trimmed_trimmedRight, List.find?_cons, hne,
      Bool.not_false]
  rw [askName, run_bind_ok hcommand, run_bind_ok hreply]
  exact congrArg Except.ok hfind

theorem askName_of_refusal {name : SentLine} {reason : String} (hname : IsAvdName name.text)
    (hreason : name.text = "KO" ++ reason) (h : asked w = name.sent ++ rest) :
    (askName.run w).1 = .error (refusalError reason) := by
  obtain ⟨w', hcommand, hbytes⟩ := command_run w
  have hrefusal : trimRight name.text.toList = 'K' :: 'O' :: reason.toList := by
    rw [trimRight_eq_self hname.not_blank, hreason, String.toList_append]
    rfl
  have hreply := awaitReply_of_refusal (w := w') hname.one_line hrefusal (hbytes.trans h)
  rw [askName, run_bind_ok hcommand, run_bind, hreply, hname.trim_reason hreason,
    String.ofList_toList]

/-- The console greets with a banner and answers the question for the name. Lines may come before they
are asked for. -/
def NameAnswers (d : D) (banner : List SentLine) (name : SentLine) : Prop :=
  ∃ (w : Wire D S) (greeted answered : Bool) (early rest : Bytes), (Net.dial d).1 = .ok w ∧
    w.stream.bytes = banner.flatMap SentLine.sent ++ (SentLine.sent ⟨"OK", greeted⟩ ++ early) ∧
    early ++ (Daemon.receive w.daemon w.session question).answer =
      name.sent ++ (SentLine.sent ⟨"OK", answered⟩ ++ rest)

section

variable {d : D} {banner : List SentLine} {name : SentLine}

/-- Whatever the banner, the name is asked for after it. -/
theorem avdName_eq_askName (h : NameAnswers d banner name) (hbanner : ∀ l ∈ banner, IsRemark l.text)
    (tokenFile : Option Bytes) :
    ∃ (w : Wire D S) (answered : Bool) (rest : Bytes),
      asked w = name.sent ++ (SentLine.sent ⟨"OK", answered⟩ ++ rest) ∧
        (avdName tokenFile d).1 = (askName.run w).1.mapError .failed := by
  obtain ⟨w, greeted, answered, early, rest, hdial, hgreeting, hanswer⟩ := h
  obtain ⟨s', hreply, rfl⟩ :=
    awaitReply_run (fun l hl => (hbanner l hl).toIsPlain) greeted hgreeting
  have hask : ((banner.map fun l => trimmedRight l.text).any
      (contains · "Authentication required")) = false := by
    rw [List.any_eq_false, List.forall_mem_map]
    exact fun l hl => by simp [(hbanner l hl).contains_eq_false]
  refine ⟨{ w with stream := s' }, answered, rest, hanswer, ?_⟩
  rw [avdName, Net.briefly_of_dial hdial, run_bind_ok hreply, if_neg (by simp [hask])]

theorem avdName_of_plain (h : NameAnswers d banner name) (hbanner : ∀ l ∈ banner, IsRemark l.text)
    (hname : IsAvdName name.text) (hrefusal : ¬ "KO".toList <+: name.text.toList)
    (tokenFile : Option Bytes) : (avdName tokenFile d).1 = .ok (some name.text) := by
  obtain ⟨w, answered, rest, hasked, hrun⟩ := avdName_eq_askName h hbanner tokenFile
  rw [hrun, askName_of_plain hname (hname.isPlain hrefusal) answered hasked]
  rfl

theorem avdName_of_refusal {reason : String} (h : NameAnswers d banner name)
    (hbanner : ∀ l ∈ banner, IsRemark l.text) (hname : IsAvdName name.text)
    (hreason : name.text = "KO" ++ reason) (tokenFile : Option Bytes) :
    (avdName tokenFile d).1 = .error (.failed (refusalError reason)) := by
  obtain ⟨w, answered, rest, hasked, hrun⟩ := avdName_eq_askName h hbanner tokenFile
  rw [hrun, askName_of_refusal hname hreason hasked]
  rfl

/-- **Main theorem.** A console greets with a banner none of whose lines ends an answer, refuses or asks
for a token, and gives a name when it is asked for it, whatever ends its lines. The name is read as it is
given exactly if it does not begin with `KO`; a name that does is taken for a refusal, with the rest of the
name for its reason. -/
theorem avdName_of_answers (h : NameAnswers d banner name)
    (hbanner : ∀ l ∈ banner, IsRemark l.text) (hname : IsAvdName name.text)
    (tokenFile : Option Bytes) :
    ((avdName tokenFile d).1 = .ok (some name.text) ↔ ¬ "KO".toList <+: name.text.toList) ∧
      ∀ reason, name.text = "KO" ++ reason →
        (avdName tokenFile d).1 = .error (.failed (refusalError reason)) := by
  refine ⟨⟨?_, fun hrefusal => avdName_of_plain h hbanner hname hrefusal tokenFile⟩,
    fun reason hreason => avdName_of_refusal h hbanner hname hreason tokenFile⟩
  rintro hread ⟨reason, hreason⟩
  have htext : name.text = "KO" ++ String.ofList reason := by
    rw [← String.toList_inj, String.toList_append, ← hreason]
    exact congrArg _ String.toList_ofList.symm
  rw [avdName_of_refusal h hbanner hname htext tokenFile] at hread
  cases hread

end

/-- A console with a banner of one line gives its name. -/
theorem avdName_of_oneRemark :
    let d : Script := .saying "" (.ofBytes
      (Bytes.ofString "Android Console\r\nOK\r\nPixel_7_API-34.1\nOK\r\n") .closed)
    (avdName none d).1 = .ok (some "Pixel_7_API-34.1") := by
  intro d
  have hanswers : NameAnswers d [⟨"Android Console", true⟩] ⟨"Pixel_7_API-34.1", false⟩ :=
    ⟨_, true, true, Bytes.ofString "Pixel_7_API-34.1\nOK\r\n", [], rfl, by decide, by decide⟩
  have hremark : IsRemark "Android Console" :=
    ⟨⟨by decide, by decide, by decide⟩, by rw [← contains_iff]; decide⟩
  have hname : IsAvdName "Pixel_7_API-34.1" :=
    ⟨by decide, List.all_eq_true.1 (by decide), by decide⟩
  exact (avdName_of_answers hanswers (by simpa using hremark) hname none).1.2 (by decide)

/-- A name that begins as a refusal is not read. -/
theorem avdName_of_koala :
    let d : Script := .saying "" (.ofBytes (Bytes.ofString "OK\r\nKOala\r\nOK\r\n") .closed)
    IsAvdName "KOala" ∧ NameAnswers d [] ⟨"KOala", true⟩ ∧
      (avdName none d).1 = .error (.failed (.protocol "emulator console refused: ala")) := by
  intro d
  have hname : IsAvdName "KOala" := ⟨by decide, List.all_eq_true.1 (by decide), by decide⟩
  have hanswers : NameAnswers d [] ⟨"KOala", true⟩ :=
    ⟨_, true, true, Bytes.ofString "KOala\r\nOK\r\n", [], rfl, by decide, by decide⟩
  have htext : "KOala" = "KO" ++ "ala" := by decide
  exact ⟨hname, hanswers, avdName_of_refusal hanswers (by simp) hname htext none⟩

end DebugBridge.Console
