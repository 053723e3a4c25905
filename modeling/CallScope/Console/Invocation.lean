import CallScope.Console.Words
import CallScope.Path
import CallScope.Toolchain

/-!
This module contains what a command line asks for.
-/

namespace CallScope.Console

inductive Request where
  | stats
  | lookup (address : String)
  | callers (name : String)
  | callees (name : String)
  | reach (target : String) (root? : Option String)
  deriving DecidableEq, Repr

structure Invocation where
  verbose : Bool
  json : Bool
  tools : Toolchain
  binary : String
  request : Request
  deriving DecidableEq, Repr

def request (verb : Verb) (root? : Option String) : List String → Except UsageFault (String × Request)
  | [] => .error .argumentMissing
  | [binary] => if verb = .stats then .ok (binary, .stats) else .error .argumentMissing
  | [binary, argument] =>
    match verb with
    | .stats => .error .argumentUnexpected
    | .lookup => .ok (binary, .lookup argument)
    | .callers => .ok (binary, .callers argument)
    | .callees => .ok (binary, .callees argument)
    | .reach => .ok (binary, .reach argument root?)
  | _ => .error .argumentUnexpected

/--
The normal path of a file, which has to exist and not to be a directory. The normal path decides, so slashes
after the name of a file do no harm.
-/
def binaryPath (host : Host) (path : String) : Except UsageFault String :=
  match host.kind (Path.normalize path) with
  | .error _ => .error (.noFile path)
  | .ok .directory => .error (.notFile path)
  | .ok _ => .ok (Path.normalize path)

/--
The tool that an option names, or else a variable that is not empty, or else the standard one.
-/
def chooseTool (host : Host) (option? : Option String) (variableName standard : String) : String :=
  (option?.or ((host.environment? variableName).filter (· ≠ ""))).getD standard

def chooseTools (host : Host) (words : Words) : Toolchain :=
  .ofTools
    (chooseTool host words.readelf? Toolchain.symbolsVariable Toolchain.standard.symbols.tool)
    (chooseTool host words.objdump? Toolchain.disassemblyVariable Toolchain.standard.disassembly.tool)

def parse (host : Host) (line : List String) : Except UsageFault Invocation := do
  let (verbose, rest) ← leadingOptions false line
  match rest with
  | [] => throw .noCommand
  | name :: rest =>
    match Verb.ofName? name with
    | none => throw (.unknownCommand name)
    | some verb =>
      let words ← sortWords verb {} rest
      let (path, request) ← request verb words.root? words.arguments
      let binary ← binaryPath host path
      return { verbose, json := words.json, tools := chooseTools host words, binary, request }

end CallScope.Console
