import CallScope.Host.Reader

/-!
This module contains the surroundings of a survey: variables of the environment, files, and tools.
-/

namespace CallScope

inductive FileKind where
  | regular
  | directory
  | other
  deriving DecidableEq, Repr

/--
Variables, files and tools. What a tool writes to standard error is passed through, and nothing reads it.
-/
structure Host where
  environment? : String → Option String
  kind : String → Except Refusal FileKind
  launch : Command → Launch
  errors : Command → String := fun _ => ""

namespace Host

def run (host : Host) (command : Command) : Feed ToolFault String :=
  (host.launch command).feed command.tool

def started (host : Host) (command : Command) : List Command :=
  (host.launch command).started command

/--
What some commands write to standard error, one after the other.
-/
def passed (host : Host) (commands : List Command) : String :=
  String.join (commands.map host.errors)

/--
Read the lines of a command to the end, as they are handed out.
-/
def read (host : Host) (command : Command) : Reader.Session :=
  Reader.idle.readAll (host.launch command) command.tool

/--
Ask a command for `count` lines, one after the other. The result holds the command if it was started.
-/
def take (host : Host) (command : Command) (count : Nat) :
    (List String × Feed.Ending ToolFault) × List Command :=
  let session := Reader.take (host.launch command) command.tool count .idle
  ((session.lines, session.ending), if .start ∈ session.actions then [command] else [])

/--
Read the lines of a command that is given by its words. Without any there is no tool to start.
-/
def readWords (host : Host) (words : List String) : Reader.Session :=
  match Command.ofWords? words with
  | some command => host.read command
  | none => ⟨[], .failed .wordless, []⟩

/--
Ask for `count` lines of a command that is given by its words. That there are none comes up with the first line.
-/
def takeWords (host : Host) (words : List String) (count : Nat) :
    (List String × Feed.Ending ToolFault) × List Command :=
  match Command.ofWords? words with
  | some command => host.take command count
  | none => (([], if count = 0 then .closed else .failed .wordless), [])

end Host

end CallScope
