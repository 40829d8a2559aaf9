import DebugBridge.Proofs.Emulator.Console
import DebugBridge.Proofs.Text.Decoded
import DebugBridge.Wire.Recorded

/-!
# The dialogue with a console

Whatever a console sends, what is received while a reply is awaited either is a reply (`Replies`) or
breaks off (`Breaks`): in a refusal, in a line that is no text, at the end or in silence. So a dialogue
consists of turns, a reply and then a command, up to the reply that breaks off or to the last command.

Results:
* `reply_cases`, a reply is read where one is received, and nothing else is;
* `avdName_dialogue`, what a console is sent is a front of its script, each command after the reply
  before it.
-/

namespace DebugBridge.Console

open Text

/-! ## Lines -/

/-- The first line of what is received, and what follows it. If the other side closes, what follows the
last line feed is a line as well. -/
inductive FirstLine (s : Stream) : Bytes → Stream → Prop
  | ended {body rest : Bytes} (hbytes : s.bytes = body ++ 10 :: rest) (hbody : 10 ∉ body) :
    FirstLine s (bareLine body) (.ofBytes rest s.ending)
  | last (hne : s.bytes ≠ []) (hopen : 10 ∉ s.bytes) (hclosed : s.ending = .closed) :
    FirstLine s s.bytes s.exhausted

/-- A line is read where one is received. -/
theorem line_cases (s : Stream) :
    (∃ l rest, line s = (.ok (some l), rest) ∧ FirstLine s l rest) ∨
      (line s = (.ok none, s.exhausted) ∧ s.bytes = [] ∧ s.ending = .closed) ∨
        (line s = (.error .waiting, s) ∧ 10 ∉ s.bytes ∧ s.ending = .silent) := by
  rcases hdrop : s.bytes.dropWhile (· != 10) with _ | ⟨b, rest⟩
  -- Without a line feed, there is a line only if the other side has closed behind some bytes.
  · have hopen : 10 ∉ s.bytes := by
      rw [List.dropWhile_eq_nil_iff] at hdrop
      exact fun hmem => absurd (hdrop 10 hmem) (by decide)
    cases hend : s.ending with
    | silent =>
      refine .inr (.inr ⟨?_, hopen, rfl⟩)
      simp only [line, hdrop, hend]
    | closed =>
      by_cases hnil : s.bytes = []
      · refine .inr (.inl ⟨?_, hnil, rfl⟩)
        simp only [line, hnil, List.dropWhile_nil, hend, List.isEmpty_nil, if_true]
      · refine .inl ⟨s.bytes, s.exhausted, ?_, .last hnil hopen hend⟩
        have hempty : s.bytes.isEmpty = false := by simpa using hnil
        simp only [line, hdrop, hend, hempty, Bool.false_eq_true, if_false]
  · have hfeed : b = 10 := by
      have hhead := List.head?_dropWhile_not (· != (10 : UInt8)) s.bytes
      rw [hdrop] at hhead
      simpa using hhead
    subst hfeed
    have hbytes : s.bytes = s.bytes.takeWhile (· != 10) ++ 10 :: rest := by
      rw [← hdrop, List.takeWhile_append_dropWhile]
    have hbody : 10 ∉ s.bytes.takeWhile (· != 10) := fun hmem =>
      absurd (List.mem_takeWhile_imp hmem) (by decide)
    refine .inl ⟨_, _, ?_, .ended hbytes hbody⟩
    simp only [line, hdrop]

theorem FirstLine.newline_not_mem {s rest : Stream} {text : String}
    (h : FirstLine s (Bytes.ofString text) rest) : '\n' ∉ text.toList := by
  have hline : 10 ∉ Bytes.ofString text := by
    generalize Bytes.ofString text = l at h
    cases h with
    | ended _ hbody =>
      rw [bareLine]
      split
      · exact fun hmem => hbody (List.dropLast_subset _ hmem)
      · exact hbody
    | last _ hopen _ => exact hopen
  intro hmem
  refine hline ?_
  rw [Bytes.ofString_eq_flatMap, List.mem_flatMap]
  exact ⟨'\n', hmem, by decide⟩

/-! ## Replies -/

/-- What is received begins with the lines of a reply and the line `OK` after them. -/
inductive Replies : Stream → List String → Stream → Prop
  | okay {s rest : Stream} {text : String} (h : FirstLine s (Bytes.ofString text) rest)
    (hokay : trimmedRight text = "OK") : Replies s [] rest
  | plain {s next rest : Stream} {text : String} {lines : List String}
    (h : FirstLine s (Bytes.ofString text) next) (hplain : IsPlain text)
    (hrest : Replies next lines rest) : Replies s (text :: lines) rest

/-- What is received is no reply, and what becomes of the wait for one. -/
inductive Breaks : Stream → Stall → Prop
  | refusal {s rest : Stream} {reason : String}
    (h : FirstLine s (Bytes.ofString ("KO" ++ reason)) rest) :
    Breaks s (.failed (refusalError
      (String.ofList (trim ((trimRight reason.toList).dropWhile (· == ':'))))))
  | noText {s rest : Stream} {l : Bytes} {defect : Utf8.Defect} (h : FirstLine s l rest)
    (hdefect : Utf8.text? l = .error defect) : Breaks s (.failed (.io defect.message))
  | closed {s : Stream} (hbytes : s.bytes = []) (hclosed : s.ending = .closed) :
    Breaks s (.failed (.protocol "emulator console closed the connection"))
  | silent {s : Stream} (hopen : 10 ∉ s.bytes) (hsilent : s.ending = .silent) : Breaks s .waiting
  | plain {s next : Stream} {text : String} {e : Stall} (h : FirstLine s (Bytes.ofString text) next)
    (hplain : IsPlain text) (hrest : Breaks next e) : Breaks s e

/-- What is cut off the end of a refusal is cut off its reason. -/
theorem trimRight_refusal (reason : String) :
    trimRight ("KO" ++ reason).toList = ['K', 'O'] ++ trimRight reason.toList := by
  have hcons : ("KO" ++ reason).toList = 'K' :: 'O' :: reason.toList := by
    rw [String.toList_append]
    rfl
  rw [hcons, trimRight_cons_of_not_blank (by decide), trimRight_cons_of_not_blank (by decide)]
  rfl

/-- A line that is a text ends a reply, refuses or stands for itself. -/
theorem text_cases {text : String} (h : '\n' ∉ text.toList) :
    trimmedRight text = "OK" ∨ (∃ reason, text = "KO" ++ reason) ∨ IsPlain text := by
  by_cases hokay : trimmedRight text = "OK"
  · exact .inl hokay
  · by_cases hrefusal : "KO".toList <+: text.toList
    · obtain ⟨reason, hreason⟩ := hrefusal
      refine .inr (.inl ⟨String.ofList reason, ?_⟩)
      rw [← String.toList_inj, String.toList_append, ← hreason]
      exact congrArg _ String.toList_ofList.symm
    · exact .inr (.inr ⟨h, hokay, hrefusal⟩)

/-- A reply is read where one is received, and only there. -/
theorem reply_cases (s : Stream) (found : List String) :
    (∃ lines rest, Replies s lines rest ∧
        reply s found = (.ok (found ++ lines.map trimmedRight), rest)) ∨
      ∃ e rest, Breaks s e ∧ reply s found = (.error e, rest) := by
  rcases line_cases s with ⟨l, next, hline, hfirst⟩ | ⟨hline, hnil, hend⟩ | ⟨hline, hopen, hend⟩
  · have hsize := size_line hline
    rcases htext : Utf8.text? l with defect | text
    · refine .inr ⟨_, next, .noText hfirst htext, ?_⟩
      rw [reply_eq, hline]
      simp only [htext]
    · rw [Utf8.text?_eq_ok_iff] at htext
      subst htext
      have hreply := reply_of_text hline found
      rcases text_cases hfirst.newline_not_mem with hokay | ⟨reason, rfl⟩ | hplain
      · refine .inl ⟨[], next, .okay hfirst hokay, ?_⟩
        rw [hreply, if_pos (String.ofList_injective hokay), List.map_nil, List.append_nil]
      · refine .inr ⟨_, next, .refusal hfirst, ?_⟩
        rw [hreply, trimRight_refusal, if_neg (by simp), after?_append]
      · rw [if_neg hplain.trimRight.1, hplain.trimRight.2] at hreply
        rw [hreply]
        -- What follows the line is a reply or breaks off, and so does the whole.
        rcases reply_cases next (found ++ [trimmedRight text]) with
          ⟨lines, rest, hlines, hrest⟩ | ⟨e, rest, hbreak, hrest⟩
        · refine .inl ⟨text :: lines, rest, .plain hfirst hplain hlines, ?_⟩
          rw [hrest, List.append_assoc, List.map_cons, List.singleton_append]
        · exact .inr ⟨e, rest, .plain hfirst hplain hbreak, hrest⟩
  · refine .inr ⟨_, s.exhausted, .closed hnil hend, ?_⟩
    rw [reply_eq, hline]
  · refine .inr ⟨_, s, .silent hopen hend, ?_⟩
    rw [reply_eq, hline]
termination_by s.size

/-! ## Turns -/

/-- A reply that was read, and the command that was sent after it. -/
structure Turn where
  /-- The lines of the reply, before the line `OK`. -/
  lines : List String
  /-- The command. -/
  command : String
  deriving Repr, DecidableEq

/-- What is sent for a command. -/
def sentFor (text : String) : Bytes := Bytes.ofString (text ++ "\r\n")

/-- What becomes of a wait for a reply that breaks off. -/
def awaitError : Stall → Error
  | .waiting => .timeout "waiting for emulator console"
  | .failed e => e

/-- The name that a reply gives: its first line that is not blank. -/
def nameIn (lines : List String) : Option String := (lines.map trimmed).find? (! ·.isEmpty)

variable {D S : Type}

/-- A reply is awaited: it is read where one is received. -/
theorem awaitReply_cases (w : Wire D S) :
    (∃ lines rest, Replies w.stream lines rest ∧
        (awaitReply : Call D S _).run w = (.ok (lines.map trimmedRight), { w with stream := rest })) ∨
      ∃ e rest, Breaks w.stream e ∧
        (awaitReply : Call D S _).run w = (.error (awaitError e), { w with stream := rest }) := by
  rcases reply_cases w.stream [] with ⟨lines, rest, hlines, hreply⟩ | ⟨e, rest, hbreak, hreply⟩
  · exact .inl ⟨lines, rest, hlines, Call.run_within _ hreply⟩
  · refine .inr ⟨e, rest, hbreak, ?_⟩
    have hrun : (show Read (List String) from fun s => reply s []).run w.stream = (.error e, rest) :=
      hreply
    rw [awaitReply, Call.within, Call.run_reading, hrun]
    cases e <;> rfl

variable [Daemon D S] {w w₁ : Wire D S} {turns : List Turn} {lines : List String} {rest : Stream}

/-- A connection after a command has been sent on it. -/
def commanded (w : Wire D S) (text : String) : Wire D S := ((command text : Call D S Unit).run w).2

/-- How a connection is after some turns: a command is sent once the reply before it has been read up to
its line `OK`, and nothing else is sent. -/
inductive Dialogue (w : Wire D S) : List Turn → Wire D S → Prop
  | start : Dialogue w [] w
  | turn {turns : List Turn} {w₁ : Wire D S} {lines : List String} {rest : Stream}
    (h : Dialogue w turns w₁) (hreply : Replies w₁.stream lines rest) (text : String) :
    Dialogue w (turns ++ [⟨lines, text⟩]) (commanded { w₁ with stream := rest } text)

/-! ## The script -/

/-- The commands that a console is sent after its banner if no reply breaks off. -/
def script (tokenFile : Option Bytes) (banner : List String) : List String :=
  if banner.any (contains · "Authentication required") then
    match token? tokenFile with
    | none => []
    | some token => [s!"auth {token}", "avd name", "quit"]
  else ["avd name", "quit"]

theorem eq_some_of_token? {tokenFile : Option Bytes} {token : String}
    (h : token? tokenFile = some token) :
    ∃ content, tokenFile = some (Bytes.ofString content) ∧ trimmed content ≠ "" ∧
      token = trimmed content := by
  rcases tokenFile with _ | content
  · cases h
  · simp only [token?] at h
    rcases htext : Utf8.text? content with _ | text <;> rw [htext] at h
    · cases h
    · rw [Utf8.text?_eq_ok_iff] at htext
      simp only [String.isEmpty_iff] at h
      split_ifs at h with hempty
      cases h
      exact ⟨text, congrArg some htext, hempty, rfl⟩

/-- The only command that is not always the same is the one with the token. -/
theorem mem_script {tokenFile : Option Bytes} {banner : List String} {text : String}
    (h : text ∈ script tokenFile banner) (hname : text ≠ "avd name") (hquit : text ≠ "quit") :
    (∃ line ∈ banner, Occurs "Authentication required" line) ∧
      ∃ content, tokenFile = some (Bytes.ofString content) ∧ trimmed content ≠ "" ∧
        text = "auth " ++ trimmed content := by
  unfold script at h
  split_ifs at h with hasks
  · have hasks' : ∃ line ∈ banner, Occurs "Authentication required" line := by
      simpa only [List.any_eq_true, contains_iff] using hasks
    rcases htoken : token? tokenFile with _ | token <;> rw [htoken] at h
    · cases h
    · obtain ⟨content, hfile, hne, rfl⟩ := eq_some_of_token? htoken
      have htext : text = s!"auth {trimmed content}" := by simpa [hname, hquit] using h
      exact ⟨hasks', content, hfile, hne, htext⟩
  · simp [hname, hquit] at h

/-- How a dialogue ends: in a reply that breaks off, and an error, or with the whole script. -/
inductive Concludes (tokenFile : Option Bytes) (w : Wire D S) (turns : List Turn) (w₁ : Wire D S) :
    Except Stall (Option String) → Prop
  /-- The banner breaks off. -/
  | unheard {e : Stall} (hturns : turns = []) (hbreak : Breaks w.stream e) :
    Concludes tokenFile w turns w₁ (.error (.failed (awaitError e)))
  /-- A later reply breaks off. -/
  | broken {banner left : List String} {rest : Stream} {e : Stall}
    (hbanner : Replies w.stream banner rest)
    (hscript : turns.map Turn.command ++ left = script tokenFile banner) (hleft : left ≠ [])
    (hbreak : Breaks w₁.stream e) : Concludes tokenFile w turns w₁ (.error (.failed (awaitError e)))
  /-- All is said. -/
  | whole {banner : List String} {rest : Stream} (hbanner : Replies w.stream banner rest)
    (hscript : turns.map Turn.command = script tokenFile banner) :
    Concludes tokenFile w turns w₁ (.ok (turns.getLast?.bind fun turn => nameIn turn.lines))

/-- The name is asked for once a reply has been read, and leave is taken once the answer has been. -/
theorem askName_concludes {tokenFile : Option Bytes} {banner : List String} {greeted : Stream}
    (hbanner : Replies w.stream banner greeted) (h : Dialogue w turns w₁)
    (hreply : Replies w₁.stream lines rest)
    (hscript : turns.map Turn.command ++ ["avd name", "quit"] = script tokenFile banner) :
    ∃ turns' w₂, Dialogue w turns' w₂ ∧ (askName.run { w₁ with stream := rest }).2.daemon = w₂.daemon ∧
      Concludes tokenFile w turns' w₂
        ((askName.run { w₁ with stream := rest }).1.mapError .failed) := by
  have hasked := Dialogue.turn h hreply "avd name"
  have hcommand : (command "avd name" : Call D S Unit).run { w₁ with stream := rest } =
      (.ok (), commanded { w₁ with stream := rest } "avd name") := rfl
  rw [askName, run_bind_ok hcommand]
  rcases awaitReply_cases (commanded { w₁ with stream := rest } "avd name") with
    ⟨answer, rest', hanswer, hrun⟩ | ⟨e, rest', hbreak, hrun⟩
  · have hquit := Dialogue.turn hasked hanswer "quit"
    -- Trimming a line that has been trimmed at its end is trimming the line.
    have htrim : (answer.map trimmedRight).map trimmed = answer.map trimmed := by
      rw [List.map_map]
      refine List.map_congr_left fun text _ => ?_
      rw [Function.comp_apply, trimmedRight, trimmed, String.toList_ofList, trim_trimRight, trimmed]
    have hall : (turns ++ [Turn.mk lines "avd name"] ++ [Turn.mk answer "quit"]).map Turn.command =
        script tokenFile banner := by
      rw [← hscript, List.append_assoc, List.map_append]
      rfl
    have hwhole : Concludes tokenFile w (turns ++ [Turn.mk lines "avd name"] ++ [Turn.mk answer "quit"])
        (commanded { commanded { w₁ with stream := rest } "avd name" with stream := rest' } "quit") _ :=
      .whole hbanner hall
    rw [List.getLast?_concat, Option.bind_some, nameIn, ← htrim] at hwhole
    rw [run_bind_ok hrun]
    exact ⟨_, _, hquit, rfl, hwhole⟩
  · have hleft : (turns ++ [Turn.mk lines "avd name"]).map Turn.command ++ ["quit"] =
        script tokenFile banner := by
      rw [← hscript, List.map_append, List.append_assoc]
      rfl
    rw [run_bind, hrun]
    exact ⟨_, commanded { w₁ with stream := rest } "avd name", hasked, rfl,
      .broken hbanner hleft (List.cons_ne_nil _ _) hbreak⟩

theorem any_asking (lines : List String) :
    ((lines.map trimmedRight).any (contains · "Authentication required")) =
      lines.any (contains · "Authentication required") := by
  rw [List.any_map]
  refine congrArg lines.any (funext fun text => ?_)
  rw [Function.comp_apply, Bool.eq_iff_iff, contains_iff, contains_iff]
  have hpart : "Authentication required".toList = "Authentication require".toList ++ ['d'] := by decide
  exact occurs_trimmedRight_iff hpart (by decide)

/-- The dialogue with a console, and what comes of it. -/
theorem avdName_concludes {d : D} (h : (Net.dial d).1 = .ok w) (tokenFile : Option Bytes) :
    ∃ turns w₁, Dialogue w turns w₁ ∧ (avdName tokenFile d).2 = w₁.daemon ∧
      Concludes tokenFile w turns w₁ (avdName tokenFile d).1 := by
  rw [avdName, Net.briefly_of_dial h, Net.daemon_briefly_of_dial h]
  rcases awaitReply_cases w with ⟨banner, rest, hbanner, hrun⟩ | ⟨e, rest, hbreak, hrun⟩
  swap
  · rw [run_bind, hrun]
    exact ⟨[], w, .start, rfl, .unheard rfl hbreak⟩
  rw [run_bind_ok hrun, any_asking]
  by_cases hasks : banner.any (contains · "Authentication required") = true
  swap
  · rw [if_neg hasks]
    exact askName_concludes hbanner .start hbanner (by rw [script, if_neg hasks]; rfl)
  rw [if_pos hasks]
  cases htoken : token? tokenFile with
  | none =>
    have hscript : [] = script tokenFile banner := by rw [script, if_pos hasks, htoken]
    exact ⟨[], w, .start, rfl, .whole hbanner hscript⟩
  | some token =>
    have hscript : [s!"auth {token}", "avd name", "quit"] = script tokenFile banner := by
      rw [script, if_pos hasks, htoken]
    have hauth := Dialogue.turn .start hbanner s!"auth {token}"
    have hcommand : (command s!"auth {token}" : Call D S Unit).run { w with stream := rest } =
        (.ok (), commanded { w with stream := rest } s!"auth {token}") := rfl
    simp only
    rw [run_bind_ok hcommand]
    rcases awaitReply_cases (commanded { w with stream := rest } s!"auth {token}") with
      ⟨lines, rest', hlines, hrun⟩ | ⟨e, rest', hbreak, hrun⟩
    · rw [run_bind_ok hrun]
      exact askName_concludes hbanner hauth hlines hscript
    · rw [run_bind, hrun]
      exact ⟨_, _, hauth, rfl, .broken hbanner hscript (List.cons_ne_nil _ _) hbreak⟩

/-! ## What is sent -/

theorem told_of_dialogue {w w₁ : Wire (Recorded D) S} (h : Dialogue w turns w₁) :
    w₁.daemon.told = w.daemon.told ++ turns.flatMap fun turn => sentFor turn.command := by
  induction h with
  | start => exact (List.append_nil _).symm
  | @turn turns w₁ lines rest _ hreply text ih =>
    have hsent : (commanded { w₁ with stream := rest } text).daemon.told =
        w₁.daemon.told ++ sentFor text := rfl
    rw [hsent, ih, List.flatMap_append, List.append_assoc]
    simp

omit [Daemon D S] in
theorem Concludes.script_of_mem {w w₁ : Wire D S} {tokenFile : Option Bytes} {turn : Turn}
    {result : Except Stall (Option String)} (h : Concludes tokenFile w turns w₁ result)
    (hturn : turn ∈ turns) :
    ∃ banner rest, Replies w.stream banner rest ∧ turn.command ∈ script tokenFile banner := by
  have hmem := List.mem_map_of_mem (f := Turn.command) hturn
  cases h with
  | unheard hturns =>
    subst hturns
    cases hturn
  | @broken banner left rest e hbanner hscript =>
    exact ⟨banner, rest, hbanner, hscript ▸ List.mem_append_left left hmem⟩
  | @whole banner rest hbanner hscript => exact ⟨banner, rest, hbanner, hscript ▸ hmem⟩

/-- **Main theorem.** Whatever a console sends and whatever the token file holds, what is written are the
commands of a dialogue, each of them after the reply to the one before it. They are a front of the script;
if a reply breaks off, nothing more is written and an error comes of it, and else the script is written to
its end. The token is written only if a line of the banner asks for it and the file holds one. -/
theorem avdName_dialogue {d : Recorded D} {w : Wire (Recorded D) S} (h : (Net.dial d).1 = .ok w)
    (tokenFile : Option Bytes) :
    ∃ turns w₁, Dialogue w turns w₁ ∧ (avdName tokenFile d).2 = w₁.daemon ∧
      w₁.daemon.told = d.told ++ (turns.flatMap fun turn => sentFor turn.command) ∧
      Concludes tokenFile w turns w₁ (avdName tokenFile d).1 ∧
      ∀ turn ∈ turns, turn.command = "avd name" ∨ turn.command = "quit" ∨
        ∃ banner rest content, Replies w.stream banner rest ∧
          (∃ line ∈ banner, Occurs "Authentication required" line) ∧
          tokenFile = some (Bytes.ofString content) ∧ trimmed content ≠ "" ∧
          turn.command = "auth " ++ trimmed content := by
  obtain ⟨turns, w₁, hturns, hdaemon, hends⟩ := avdName_concludes h tokenFile
  refine ⟨turns, w₁, hturns, hdaemon, ?_, hends, fun turn hturn => ?_⟩
  · rw [told_of_dialogue hturns, Recorded.told_dial h]
  · obtain ⟨banner, rest, hbanner, hmem⟩ := hends.script_of_mem hturn
    by_cases hname : turn.command = "avd name"
    · exact .inl hname
    · by_cases hquit : turn.command = "quit"
      · exact .inr (.inl hquit)
      · obtain ⟨hasks, content, hfile, hne, htext⟩ := mem_script hmem hname hquit
        exact .inr (.inr ⟨banner, rest, content, hbanner, hasks, hfile, hne, htext⟩)

/-- A console that asks for the token is sent it, and nothing that is not in the script. -/
theorem avdName_dialogue_of_asking :
    let d : Recorded Script := ⟨.saying "" (.ofBytes
      (Bytes.ofString "Authentication required\r\nOK\r\nOK\r\nPixel\r\nOK\r\n") .closed), []⟩
    ∃ turns : List Turn,
      (avdName (some (Bytes.ofString "s3cret\n")) d).2.told =
          (turns.flatMap fun turn => sentFor turn.command) ∧
        ∀ turn ∈ turns, turn.command ∈ ["avd name", "quit", "auth s3cret"] := by
  intro d
  obtain ⟨turns, w₁, -, hdaemon, htold, -, hcommands⟩ :=
    avdName_dialogue (d := d) (w := ⟨_, _, _⟩) rfl (some (Bytes.ofString "s3cret\n"))
  refine ⟨turns, hdaemon ▸ htold, fun turn hturn => ?_⟩
  rcases hcommands turn hturn with hname | hquit | ⟨-, -, content, -, -, hfile, -, hauth⟩
  · simp [hname]
  · simp [hquit]
  · have hcontent : content = "s3cret\n" := by
      have htext := Utf8.text?_eq_ok_iff.2 (Option.some.inj hfile)
      rw [Utf8.text?_ofString] at htext
      exact (Except.ok.inj htext).symm
    rw [hauth, hcontent]
    decide

end DebugBridge.Console
