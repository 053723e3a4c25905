import CallScope.Console.Answer
import CallScope.Console.Invocation
import CallScope.Load
import CallScope.Numeral.Literal

/-!
This module contains the command line as a function from its words to what is printed. How the words are read and how
texts are written is up to a parser and a terminal.
-/

namespace CallScope.Console

inductive Failure where
  | invalidAddress (text : String)
  | load (fault : LoadFault)
  | noRoot
  deriving DecidableEq, Repr

def Failure.message : Failure → String
  | .invalidAddress text => "invalid address '" ++ text ++ "'"
  | .load fault => fault.text
  | .noRoot => "no --root given and no entry point function found"

structure Outcome where
  exitCode : Nat
  stdout : String := ""
  stderr : String := ""
  breach? : Option Breach := none
  started : List Command := []
  deriving DecidableEq, Repr

/--
The root to search from: the one given unless it is empty, or else the function of the entry point.
-/
def chooseRoot (survey : Survey) (root? : Option String) : Option String :=
  (root?.filter (· ≠ "")).or (entryFunction? survey)

def readAddress (text : String) : Except Failure Address :=
  match Numeral.literal? text with
  | none => .error (.invalidAddress text)
  | some address => .ok address

namespace Request

/--
Check what can be checked before any tool is started, which is the address of a lookup.
-/
def check : Request → Except Failure Unit
  | .lookup text => (readAddress text).map fun _ => ()
  | _ => .ok ()

def answer (survey : Survey) : Request → Except Failure Answer
  | .stats => .ok (.stats survey)
  | .lookup text => (readAddress text).map fun address => .location (survey.locate address)
  | .callers name => .ok (.callers name (survey.graph.callers name))
  | .callees name => .ok (.callees name (survey.graph.callees name))
  | .reach target root? =>
    match chooseRoot survey root? with
    | none => .error .noRoot
    | some root => .ok (.reach root target (survey.reach (some root) (some target)))

end Request

namespace Failure

def markedMessage (failure : Failure) : String :=
  "[red]Error:[/red] " ++ failure.message

/--
Report a failure. A command that cannot be handed to the system breaks off the run before there is a report, and so does
a message whose marks do not fit together.
-/
def report (failure : Failure) (terminal : Terminal) : Printed :=
  match failure with
  | .load (.feed .malformed) => { text := "", breach? := some .malformed }
  | _ =>
    match terminal.err failure.markedMessage with
    | none => { text := "", breach? := some .marks }
    | some written => { text := written }

/--
The outcome of a failure, where `before` is what stands on standard error already.
-/
def outcome (failure : Failure) (terminal : Terminal) (before : String) (started : List Command) : Outcome where
  exitCode := 1
  stderr := before ++ (failure.report terminal).text
  breach? := (failure.report terminal).breach?
  started := started

end Failure

def Answer.outcome (answer : Answer) (terminal : Terminal) (json : Bool) (before : String) (started : List Command) :
    Outcome where
  exitCode := if (answer.print terminal json).breach?.isSome then 1 else 0
  stdout := (answer.print terminal json).text
  stderr := before
  breach? := (answer.print terminal json).breach?
  started := started

namespace Invocation

def answer (invocation : Invocation) (loaded : Loaded) : Except Failure Answer := do
  let survey ← loaded.result.mapError Failure.load
  invocation.request.answer survey

def run (invocation : Invocation) (terminal : Terminal) (host : Host) : Outcome :=
  match invocation.request.check with
  | .error failure => failure.outcome terminal "" []
  | .ok () =>
    let loaded := host.load invocation.tools invocation.binary
    let reports := if invocation.verbose then String.join (loaded.notices.map terminal.log) else ""
    let before := host.passed loaded.started ++ reports
    match invocation.answer loaded with
    | .error failure => failure.outcome terminal before loaded.started
    | .ok answer => answer.outcome terminal invocation.json before loaded.started

end Invocation

/--
How the words of a command line are read: as a command, or else with an outcome of their own, such as that of a command
line in error or of a question for help.
-/
abbrev Parser := Host → List String → Except Outcome Invocation

def UsageFault.outcome (fault : UsageFault) : Outcome where
  exitCode := 2
  stderr := "Error: " ++ fault.message ++ "\n"

/--
The parser that reads the options and arguments of the five commands.
-/
def parser : Parser :=
  fun host line => (parse host line).mapError UsageFault.outcome

def run (parser : Parser) (terminal : Terminal) (host : Host) (line : List String) : Outcome :=
  match parser host line with
  | .error outcome => outcome
  | .ok invocation => invocation.run terminal host

end CallScope.Console
