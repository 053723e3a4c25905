import CallScope.Feed
import CallScope.Text.Lines
import CallScope.Text.Quoted
import CallScope.Text.Utf8

/-!
This module contains the tools that are started for their output, and what can be wrong with them.
-/

namespace CallScope

structure Command where
  tool : String
  arguments : List String
  deriving DecidableEq, Repr

namespace Command

def words (command : Command) : List String :=
  command.tool :: command.arguments

def ofWords? : List String → Option Command
  | [] => none
  | tool :: arguments => some ⟨tool, arguments⟩

/--
Decide whether a word holds a null character. The system takes such a character for the end of the word.
-/
def hasNull (command : Command) : Bool :=
  command.words.any (·.contains '\x00')

end Command

/--
Why the system does not find a file or start a tool: its number for the reason, and its words. A refusal that comes
before the file is looked at does not name it.
-/
structure Refusal where
  number : Nat
  reason : String
  namesFile : Bool := true
  deriving DecidableEq, Repr

namespace Refusal

def notFound : Refusal := { number := 2, reason := "No such file or directory" }

def wordTooLong : Refusal := { number := 7, reason := "Argument list too long" }

def notPermitted : Refusal := { number := 13, reason := "Permission denied" }

def notDirectory : Refusal := { number := 20, reason := "Not a directory" }

def nameTooLong : Refusal := { number := 36, reason := "File name too long" }

/--
Decide whether a refusal means that there is no such file: nothing has the name, a descriptor is closed, a part of the
path is not a directory, or links lead in a circle.
-/
def isAbsence (refusal : Refusal) : Bool :=
  refusal.number ∈ [2, 9, 20, 40]

def message (refusal : Refusal) (path : String) : String :=
  "[Errno " ++ Numeral.decimalText refusal.number ++ "] " ++ refusal.reason
    ++ if refusal.namesFile then ": " ++ Text.quoted path else ""

end Refusal

/--
What comes of starting a tool: the command cannot be handed to the system, the system refuses it, the tool
starts but its output cannot be read, or it writes some octets and ends with an exit code.
-/
inductive Launch where
  | malformed
  | refused (refusal : Refusal)
  | mute
  | ran (output : List UInt8) (exitCode : Int)
  deriving DecidableEq, Repr

inductive ToolFault where
  | wordless
  | malformed
  | refused (tool : String) (refusal : Refusal)
  | mute (tool : String)
  | exited (tool : String) (code : Int)
  deriving DecidableEq, Repr

def ToolFault.message : ToolFault → String
  | .wordless => "list index out of range"
  | .malformed => "embedded null byte"
  | .refused tool refusal => "Cannot run " ++ tool ++ ": " ++ refusal.message tool
  | .mute tool => "No output pipe for " ++ tool
  | .exited tool code => tool ++ " exited with code " ++ Numeral.decimalText code

namespace Launch

def hasRun : Launch → Bool
  | .ran .. => true
  | _ => false

def started (launch : Launch) (command : Command) : List Command :=
  if launch.hasRun then [command] else []

/--
Read the lines that a tool writes. A bad exit code is a failure that comes up after the last line.
-/
def feed (launch : Launch) (tool : String) : Feed ToolFault String :=
  match launch with
  | .malformed => ⟨[], some .malformed⟩
  | .refused refusal => ⟨[], some (.refused tool refusal)⟩
  | .mute => ⟨[], some (.mute tool)⟩
  | .ran output exitCode =>
    ⟨Text.lines (Text.Utf8.decode output), if exitCode = 0 then none else some (.exited tool exitCode)⟩

end Launch

end CallScope
