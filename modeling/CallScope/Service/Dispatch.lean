import CallScope.Json.Spelling
import CallScope.Json.Writer
import CallScope.Load
import CallScope.Path
import CallScope.Service.Answer
import CallScope.Service.Catalog

/-!
This module contains calls to the service. Every call is answered with one JSON text: an answer is spread over
lines, and a report that the call failed is on one line.
-/

namespace CallScope.Service

inductive CallFault where
  | notObject (kind : Json.Kind)
  | missing (argument : String)
  | binaryNotText (kind : Json.Kind)
  | noBinary (path : String)
  | badPath (path : String) (refusal : Refusal)
  | load (fault : LoadFault)
  | nameNotPlain (kind : Json.Kind)
  | addressNotText
  | overlong
  deriving DecidableEq, Repr

def kindWord : Json.Kind → String
  | .null => "NoneType"
  | .bool => "bool"
  | .int => "int"
  | .real => "float"
  | .str => "str"
  | .arr => "list"
  | .obj => "dict"

def CallFault.message : CallFault → String
  | .notObject .str => "string indices must be integers, not 'str'"
  | .notObject .arr => "list indices must be integers or slices, not str"
  | .notObject kind => "'" ++ kindWord kind ++ "' object is not subscriptable"
  | .missing argument => "'" ++ argument ++ "'"
  | .binaryNotText kind => "expected str, bytes or os.PathLike object, not " ++ kindWord kind
  | .noBinary path => "No such binary: " ++ path
  | .badPath path refusal => refusal.message path
  | .load fault => fault.text
  | .nameNotPlain kind => "unhashable type: '" ++ kindWord kind ++ "'"
  | .addressNotText => "int() can't convert non-string with explicit base"
  | .overlong => Json.overlongMessage

structure Reply where
  text : String
  started : List Command
  deriving DecidableEq, Repr

abbrev Arguments := List (String × Json)

namespace Arguments

def ofJson : Json → Except CallFault Arguments
  | .obj fields => .ok fields
  | value => .error (.notObject value.kind)

def required (arguments : Arguments) (name : String) : Except CallFault Json :=
  match arguments.lookup name with
  | some value => .ok value
  | none => .error (.missing name)

/--
An argument that has to be a text. A value of another kind is not taken for a missing one.
-/
def text (arguments : Arguments) (name : String) (notText : Json.Kind → CallFault) :
    Except CallFault String := do
  let value ← arguments.required name
  match value.text? with
  | some text => return text
  | none => throw (notText value.kind)

end Arguments

/--
Refuse what cannot stand for a name, which is a value made of others.
-/
def checkName (value : Json) : Except CallFault Unit :=
  match value with
  | .arr _ | .obj _ => .error (.nameNotPlain value.kind)
  | _ => .ok ()

/--
Let a tool answer from a survey. The names of a search are looked at once there is a root to begin at.
-/
def answer (tool : Tool) (survey : Survey) (arguments : Arguments) : Except CallFault Json := do
  match tool with
  | .callers =>
    let name ← arguments.required "name"
    checkName name
    return callers survey name
  | .callees =>
    let name ← arguments.required "name"
    checkName name
    return callees survey name
  | .lookup => return lookup survey (← arguments.text "address" fun _ => .addressNotText)
  | .reach =>
    let target ← arguments.required "target"
    let root := (arguments.lookup "root").getD .null
    if (chooseRoot survey root).isSome then
      checkName root
      checkName target
    return reach survey target root
  | .stats => return stats survey

def writableAnswer (tool : Tool) (survey : Survey) (arguments : Arguments) : Except CallFault Json := do
  let found ← answer tool survey arguments
  if found.fits then return found else throw .overlong

def binary (host : Host) (arguments : Arguments) : Except CallFault String := do
  let path ← arguments.text "binary" .binaryNotText
  let normal := Path.normalize path
  match host.kind normal with
  | .ok .regular => return normal
  | .ok _ => throw (.noBinary path)
  | .error refusal => throw (if refusal.isAbsence then .noBinary path else .badPath normal refusal)

def CallFault.reply (fault : CallFault) (started : List Command) : Reply :=
  ⟨(failure fault.message).text .oneLine, started⟩

def answerReply (answer : Json) (started : List Command) : Reply :=
  ⟨answer.text .indented, started⟩

def Tool.reply (tool : Tool) (host : Host) (arguments : Arguments) : Reply :=
  match binary host arguments with
  | .error fault => fault.reply []
  | .ok path =>
    let loaded := host.load (.ofEnvironment host) path
    match loaded.result with
    | .error fault => (CallFault.load fault).reply loaded.started
    | .ok survey =>
      match writableAnswer tool survey arguments with
      | .error fault => fault.reply loaded.started
      | .ok found => answerReply found loaded.started

def call (host : Host) (name arguments : Json) : Reply :=
  match name.text?.bind Tool.ofName? with
  | none => answerReply (failure ("Unknown tool: " ++ name.spelling)) []
  | some tool =>
    match Arguments.ofJson arguments with
    | .error fault => fault.reply []
    | .ok arguments => tool.reply host arguments

end CallScope.Service
