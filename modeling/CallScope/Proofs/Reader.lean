import CallScope.Host.Sandbox
import CallScope.Proofs.Lines

/-!
This module contains the proof that a reader which is closed early and one that is read to the end hand out the same
lines, and that each reports a failure exactly when it comes to one. A tool that is killed reports none.
-/

namespace CallScope

open Text Text.LineEnds

namespace Reader

variable {launch : Launch} {tool : String} {exitCode : Int}

/--
How the lines of a tool end for a reader that asks for one more.
-/
def lastEnding (tool : String) (exitCode : Int) : Feed.Ending ToolFault :=
  if exitCode = 0 then .exhausted else .failed (.exited tool exitCode)

section

variable {line rest : List Char} {terminator : Terminator}

theorem next_reading_append (hline : ofChars.Unbroken line) (hallows : ofChars.Allows terminator rest) :
    (Reader.reading (line ++ (ofChars.symbols terminator ++ rest)) exitCode).next launch tool
      = ⟨.line (String.ofList line), .reading rest exitCode, []⟩ := by
  rw [next, advance, takeLine?_append hline hallows]
  simp [dropEndWhile_concat hline]

theorem next_reading_of_unbroken (hline : ofChars.Unbroken line) (hne : line ≠ []) :
    (Reader.reading line exitCode).next launch tool = ⟨.line (String.ofList line), .reading [] exitCode, []⟩ := by
  rw [next, advance, takeLine?_of_unbroken hline hne]
  simp [dropEndWhile_of_unbroken hline]

end

/--
The reply that shows a reader how the lines end.
-/
def endReply : Feed.Ending ToolFault → Reply
  | .failed fault => .failed fault
  | _ => .exhausted

theorem next_reading_nil :
    (Reader.reading [] exitCode).next launch tool = ⟨endReply (lastEnding tool exitCode), .done, [.wait]⟩ := by
  by_cases h : exitCode = 0
  · simp [next, advance, takeLine?, lastEnding, endReply, endProcess, h]
  · simp [next, advance, takeLine?, lastEnding, endReply, endProcess, h]

section

variable {reader rest : Reader} {text : String} {actions : List Action} {ending : Feed.Ending ToolFault}

theorem readAll_eq (launch : Launch) (tool : String) (reader : Reader) :
    reader.readAll launch tool =
      match (reader.next launch tool).reply with
      | .line text => ((reader.next launch tool).reader.readAll launch tool).cons text (reader.next launch tool).actions
      | .exhausted => ⟨[], .exhausted, (reader.next launch tool).actions⟩
      | .failed fault => ⟨[], .failed fault, (reader.next launch tool).actions⟩ := by
  rw [readAll]
  split
  all_goals next hreply => simp only [hreply]

theorem readAll_of_line (h : reader.next launch tool = ⟨.line text, rest, actions⟩) :
    reader.readAll launch tool = (rest.readAll launch tool).cons text actions := by
  rw [readAll_eq, h]

theorem readAll_of_endReply (h : reader.next launch tool = ⟨endReply ending, .done, actions⟩) (hending : ending ≠ .closed) :
    reader.readAll launch tool = ⟨[], ending, actions⟩ := by
  rw [readAll_eq, h]
  cases ending with
  | closed => contradiction
  | exhausted => rfl
  | failed fault => rfl

theorem take_of_line (h : reader.next launch tool = ⟨.line text, rest, actions⟩) (count : Nat) :
    take launch tool (count + 1) reader = (take launch tool count rest).cons text actions := by
  simp only [take, h]

theorem take_of_endReply (h : reader.next launch tool = ⟨endReply ending, .done, actions⟩) (hending : ending ≠ .closed)
    (count : Nat) : take launch tool (count + 1) reader = ⟨[], ending, actions⟩ := by
  cases ending with
  | closed => contradiction
  | exhausted => simp [take, h, endReply, close]
  | failed fault => simp [take, h, endReply, close]

end

theorem lastEnding_ne_closed : lastEnding tool exitCode ≠ .closed := by
  unfold lastEnding
  split <;> simp

section

variable {text : List Char} {lines : List (List Char)}

theorem readAll_reading (h : ofChars.Divides text lines) :
    readAll launch tool (.reading text exitCode)
      = ⟨lines.map String.ofList, lastEnding tool exitCode, [.wait]⟩ := by
  have hnil : readAll launch tool (.reading [] exitCode) = ⟨[], lastEnding tool exitCode, [.wait]⟩ :=
    readAll_of_endReply next_reading_nil lastEnding_ne_closed
  induction h with
  | nil => exact hnil
  | last hline hne =>
    rw [readAll_of_line (next_reading_of_unbroken hline hne), hnil]
    rfl
  | line hline hallows _ ih =>
    rw [readAll_of_line (next_reading_append hline hallows), ih]
    rfl

/--
What comes of asking for `count` of some lines.
-/
def part (lines : List String) (ending : Feed.Ending ToolFault) (count : Nat) : Session :=
  if count ≤ lines.length then ⟨lines.take count, .closed, [.kill, .wait]⟩ else ⟨lines, ending, [.wait]⟩

theorem cons_part (line : String) (lines : List String) (ending : Feed.Ending ToolFault) (count : Nat) :
    (part lines ending count).cons line [] = part (line :: lines) ending (count + 1) := by
  unfold part
  by_cases h : count ≤ lines.length
  · simp [h, Session.cons]
  · simp [h, Session.cons]

theorem take_reading (h : ofChars.Divides text lines) (count : Nat) :
    take launch tool count (.reading text exitCode) = part (lines.map String.ofList) (lastEnding tool exitCode) count := by
  have hnil (count : Nat) :
      take launch tool count (.reading [] exitCode) = part [] (lastEnding tool exitCode) count := by
    cases count with
    | zero => rfl
    | succ count => exact take_of_endReply next_reading_nil lastEnding_ne_closed count
  induction h generalizing count with
  | nil => exact hnil count
  | last hline hne =>
    cases count with
    | zero => rfl
    | succ count =>
      rw [take_of_line (next_reading_of_unbroken hline hne), hnil, cons_part]
      rfl
  | line hline hallows _ ih =>
    cases count with
    | zero => rfl
    | succ count => rw [take_of_line (next_reading_append hline hallows), ih, cons_part, List.map_cons]

end

section

variable (output : List UInt8)

def Session.afterStart (session : Session) : Session :=
  { session with actions := .start :: session.actions }

-- A reader that has not been asked yet differs from one in front of the whole text only in that it starts the tool.
theorem readAll_idle :
    Reader.idle.readAll (.ran output exitCode) tool
      = (readAll (.ran output exitCode) tool (.reading (Utf8.decode output) exitCode)).afterStart := by
  rw [readAll_eq, readAll_eq _ _ (.reading _ _), next, next]
  cases (advance tool (Utf8.decode output) exitCode).reply with
  | line text => rfl
  | exhausted => rfl
  | failed fault => rfl

theorem take_idle (count : Nat) :
    take (.ran output exitCode) tool (count + 1) .idle
      = (take (.ran output exitCode) tool (count + 1) (.reading (Utf8.decode output) exitCode)).afterStart := by
  rw [take, take, next, next]
  cases (advance tool (Utf8.decode output) exitCode).reply with
  | line text => rfl
  | exhausted => rfl
  | failed fault => rfl

end

end Reader

namespace Feed

variable {ε α : Type} {feed : Feed ε α} {count : Nat}

theorem take_fst (feed : Feed ε α) (count : Nat) : (feed.take count).1 = feed.items.take count := by
  unfold take
  split
  · rfl
  · next h =>
    rw [List.take_of_length_le (by omega)]
    split <;> rfl

theorem take_snd_of_le (h : count ≤ feed.items.length) : (feed.take count).2 = .closed := by
  rw [take, if_pos h]

theorem take_snd_of_lt (h : feed.items.length < count) :
    (feed.take count).2 = feed.failure?.elim .exhausted .failed := by
  rw [take, if_neg (by omega)]
  cases feed.failure? with
  | none => rfl
  | some failure => rfl

end Feed

namespace Host

theorem divides_split_decode (output : List UInt8) :
    ofChars.Divides (Utf8.decode output) (ofChars.split (Utf8.decode output)) := by
  rw [divides_iff]

/--
A tool runs, or there is nothing to read of it but why it does not.
-/
theorem ran_or_fails (launch : Launch) (tool : String) :
    (∃ output exitCode, launch = .ran output exitCode)
      ∨ ∃ fault, launch.feed tool = ⟨[], some fault⟩ ∧ launch.hasRun = false
        ∧ Reader.idle.next launch tool = ⟨Reader.endReply (.failed fault), .done, []⟩ := by
  cases launch with
  | malformed => exact .inr ⟨.malformed, rfl, rfl, rfl⟩
  | refused refusal => exact .inr ⟨.refused tool refusal, rfl, rfl, rfl⟩
  | mute => exact .inr ⟨.mute tool, rfl, rfl, rfl⟩
  | ran output exitCode => exact .inl ⟨output, exitCode, rfl⟩

theorem read_eq_run (host : Host) (command : Command) :
    host.read command
      = ⟨(host.run command).items, (host.run command).failure?.elim .exhausted .failed,
          if (host.launch command).hasRun then [.start, .wait] else []⟩ := by
  unfold read run
  rcases ran_or_fails (host.launch command) command.tool with ⟨output, exitCode, h⟩ | ⟨fault, hfeed, hrun, hnext⟩
  · rw [h, Reader.readAll_idle, Reader.readAll_reading (divides_split_decode output), Reader.lastEnding, Launch.feed]
    by_cases hcode : exitCode = 0
    · simp [hcode, Reader.Session.afterStart, Text.lines, Launch.hasRun]
    · simp [hcode, Reader.Session.afterStart, Text.lines, Launch.hasRun]
  · rw [Reader.readAll_of_endReply hnext (by simp), hfeed, hrun]
    rfl

theorem take_eq_run (host : Host) (command : Command) (count : Nat) :
    host.take command count = ((host.run command).take count, if count = 0 then [] else host.started command) := by
  cases count with
  | zero => simp [take, Reader.take, Reader.close, Feed.take]
  | succ count =>
    unfold take run started Launch.started
    rcases ran_or_fails (host.launch command) command.tool with ⟨output, exitCode, h⟩ | ⟨fault, hfeed, hrun, hnext⟩
    · rw [h, Reader.take_idle, Reader.take_reading (divides_split_decode output), Reader.part, Reader.lastEnding, Launch.feed,
        Feed.take, ← Text.lines]
      by_cases hcount : count + 1 ≤ (Text.lines (Utf8.decode output)).length
      · simp [hcount, Reader.Session.afterStart, Launch.hasRun]
      · by_cases hcode : exitCode = 0
        · simp [hcount, hcode, Reader.Session.afterStart, Launch.hasRun]
        · simp [hcount, hcode, Reader.Session.afterStart, Launch.hasRun]
    · rw [Reader.take_of_endReply hnext (by simp), hfeed, hrun]
      simp [Feed.take]

/--
What a tool that runs hands out in parts, compared with the whole. The end shows to those who ask for one line more
than there are, and to nobody else.
-/
structure PartsAgree (host : Host) (command : Command) (output : List UInt8) (exitCode : Int) : Prop where
  read_lines : (host.read command).lines = Text.lines (Utf8.decode output)
  read_ending : (host.read command).ending = if exitCode = 0 then .exhausted else .failed (.exited command.tool exitCode)
  take_lines : ∀ count, (host.take command count).1.1 = (host.read command).lines.take count
  take_within : ∀ count ≤ (host.read command).lines.length, (host.take command count).1.2 = .closed
  take_past : ∀ count, (host.read command).lines.length < count →
    (host.take command count).1.2 = (host.read command).ending
  take_started : ∀ count, (host.take command count).2 = if count = 0 then [] else [command]

theorem partsAgree_of_ran {host : Host} {command : Command} {output : List UInt8} {exitCode : Int}
    (h : host.launch command = .ran output exitCode) : host.PartsAgree command output exitCode := by
  have hread := read_eq_run host command
  have htake := take_eq_run host command
  have hrun : host.run command = (Launch.ran output exitCode).feed command.tool := by rw [run, h]
  have hlines : (host.read command).lines = (host.run command).items := by rw [hread]
  constructor
  · rw [hlines, hrun]
    rfl
  · rw [hread, hrun, Launch.feed]
    split <;> rfl
  · intro count
    rw [htake, hlines]
    apply Feed.take_fst
  · intro count hcount
    rw [hlines] at hcount
    rw [htake]
    exact Feed.take_snd_of_le hcount
  · intro count hcount
    rw [hlines] at hcount
    rw [htake, hread]
    exact Feed.take_snd_of_lt hcount
  · intro count
    rw [htake, started, h]
    rfl

theorem take_of_fails {host : Host} {command : Command} {fault : ToolFault} {count : Nat} (hcount : 0 < count)
    (hrun : host.run command = ⟨[], some fault⟩) (hstarted : host.started command = []) :
    host.take command count = (([], .failed fault), []) := by
  have hne : count ≠ 0 := Nat.ne_of_gt hcount
  rw [take_eq_run, hrun, hstarted]
  simp [Feed.take, hne]

theorem failure?_run_ne_wordless (host : Host) (command : Command) :
    (host.run command).failure? ≠ some .wordless := by
  unfold run
  cases host.launch command with
  | malformed => simp [Launch.feed]
  | refused refusal => simp [Launch.feed]
  | mute => simp [Launch.feed]
  | ran output exitCode =>
    by_cases h : exitCode = 0
    · simp [Launch.feed, h]
    · simp [Launch.feed, h]

theorem elim_failure?_run_ne (host : Host) (command : Command) :
    (host.run command).failure?.elim .exhausted Feed.Ending.failed ≠ .failed .wordless := by
  have hne := failure?_run_ne_wordless host command
  cases hfailure : (host.run command).failure? with
  | none => simp
  | some fault =>
    rw [hfailure] at hne
    simpa using hne

theorem readWords_ending_iff (host : Host) (words : List String) :
    (host.readWords words).ending = .failed .wordless ↔ words = [] := by
  cases words with
  | nil => simp [readWords, Command.ofWords?]
  | cons tool arguments =>
    have hne := elim_failure?_run_ne host ⟨tool, arguments⟩
    simpa [readWords, Command.ofWords?, read_eq_run] using hne

/--
A command without words fails at the first line that is asked for, and no other command fails for want of words.
-/
theorem takeWords_ending_iff (host : Host) (words : List String) (count : Nat) :
    (host.takeWords words count).1.2 = .failed .wordless ↔ words = [] ∧ 0 < count := by
  cases words with
  | nil => cases count <;> simp [takeWords, Command.ofWords?]
  | cons tool arguments =>
    have hne := elim_failure?_run_ne host ⟨tool, arguments⟩
    simp only [takeWords, Command.ofWords?, take_eq_run, reduceCtorEq, false_and, iff_false]
    by_cases h : count ≤ (host.run ⟨tool, arguments⟩).items.length
    · simp [Feed.take_snd_of_le h]
    · rw [Feed.take_snd_of_lt (Nat.lt_of_not_le h)]
      exact hne

/--
A command gives the same lines in parts and as a whole, and its failure shows exactly where the lines end. Nothing
happens before the first line is asked for. If the system refuses to start the tool, that is the answer to everyone who
asks for a line. A word with a null character comes to another fault, for the system is not asked then.
-/
theorem take_accounts_for_launch (host : Host) (command : Command) :
    (∀ output exitCode, host.launch command = .ran output exitCode → host.PartsAgree command output exitCode)
      ∧ host.take command 0 = (([], .closed), [])
      ∧ ∀ count, 0 < count →
        (∀ refusal, host.launch command = .refused refusal →
          ∃ fault, fault.message = "Cannot run " ++ command.tool ++ ": " ++ refusal.message command.tool
            ∧ host.take command count = (([], .failed fault), []))
        ∧ (host.launch command = .malformed → host.take command count = (([], .failed .malformed), [])) := by
  refine ⟨fun output exitCode => partsAgree_of_ran, rfl, ?_⟩
  intro count hcount
  constructor
  · intro refusal h
    refine ⟨.refused command.tool refusal, rfl, take_of_fails hcount ?_ ?_⟩
    · rw [run, h, Launch.feed]
    · rw [started, h]
      rfl
  · intro h
    apply take_of_fails hcount
    · rw [run, h, Launch.feed]
    · rw [started, h]
      rfl

/--
A host with a single tool, which writes two lines, does not end the second one, and fails.
-/
def failingHost : Host where
  environment? _ := none
  kind _ := .error .notFound
  launch command := if command.tool = "dump" then .ran [0x61, 0x0A, 0x62] 3 else .refused .notFound

theorem take_accounts_for_launch_failingHost :
    failingHost.launch ⟨"dump", []⟩ = .ran [0x61, 0x0A, 0x62] 3
      ∧ (failingHost.take ⟨"dump", []⟩ 2).1 = (["a", "b"], .closed)
      ∧ (failingHost.take ⟨"dump", []⟩ 3).1 = (["a", "b"], .failed (.exited "dump" 3))
      ∧ failingHost.launch ⟨"lost", []⟩ = .refused .notFound
      ∧ ∃ fault, fault.message = "Cannot run lost: [Errno 2] No such file or directory: 'lost'"
        ∧ failingHost.take ⟨"lost", []⟩ 1 = (([], .failed fault), []) := by
  have hdump := (take_accounts_for_launch failingHost ⟨"dump", []⟩).1 [0x61, 0x0A, 0x62] 3 rfl
  have hlost := ((take_accounts_for_launch failingHost ⟨"lost", []⟩).2.2 1 (by decide)).1 .notFound rfl
  have hlines : (failingHost.read ⟨"dump", []⟩).lines = ["a", "b"] := by
    rw [hdump.read_lines]
    decide +kernel
  refine ⟨rfl, Prod.ext ?_ ?_, Prod.ext ?_ ?_, rfl, ?_⟩
  · rw [hdump.take_lines, hlines]
    rfl
  · apply hdump.take_within
    rw [hlines]
    decide
  · rw [hdump.take_lines, hlines]
    rfl
  · rw [hdump.take_past 3 (by rw [hlines]; decide), hdump.read_ending]
    rfl
  · obtain ⟨fault, hmessage, htake⟩ := hlost
    refine ⟨fault, ?_, htake⟩
    rw [hmessage]
    decide +kernel

end Host

namespace Sandbox

def bareBox : Sandbox where
  workingDirectory := .directory []
  searchDirectory := .directory []

-- No tool starts, yet the fault does not say that the command cannot be run.
theorem take_brokenName :
    bareBox.host.started ⟨"a\x00b", []⟩ = []
      ∧ ∃ fault, bareBox.host.take ⟨"a\x00b", []⟩ 1 = (([], .failed fault), [])
        ∧ ∀ reason, fault.message ≠ "Cannot run a\x00b: " ++ reason := by
  have hlaunch : bareBox.host.launch ⟨"a\x00b", []⟩ = .malformed := by
    simp [host, Command.hasNull, Command.words, String.contains_char_eq]
  have hstarted : bareBox.host.started ⟨"a\x00b", []⟩ = [] := by
    rw [Host.started, hlaunch]
    rfl
  refine ⟨hstarted, .malformed, ?_, ?_⟩
  · apply Host.take_of_fails (by decide) _ hstarted
    rw [Host.run, hlaunch, Launch.feed]
  · intro reason h
    have hhead := congrArg (fun text => text.toList.head?) h
    rw [String.toList_append] at hhead
    cases hhead

end Sandbox

end CallScope
