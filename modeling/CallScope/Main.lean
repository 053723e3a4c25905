import CallScope.Console.Run

/-!
This module contains the command line program. It does not start the tools. What they would write is read
from captures, which are files named after the binary and the tool (`prog.readelf`, `prog.objdump`).
-/

namespace CallScope.Capture

def path (command : Command) : String :=
  command.arguments.getLastD "" ++ "." ++ command.tool

def launch (captures : List (Command × ByteArray)) (command : Command) : Launch :=
  match captures.lookup command with
  | some output => .ran output.toList 0
  | none => .refused .notFound

def host (environment : List (String × String)) (kinds : List (String × FileKind))
    (captures : List (Command × ByteArray)) : Host where
  environment? name := environment.lookup name
  kind path := match kinds.lookup path with
    | some kind => .ok kind
    | none => .error .notFound
  launch := launch captures

end CallScope.Capture

open CallScope in
def main (arguments : List String) : IO UInt32 := do
  let mut environment := []
  for name in [Toolchain.symbolsVariable, Toolchain.disassemblyVariable] do
    if let some value ← IO.getEnv name then environment := (name, value) :: environment
  let mut kinds := []
  for argument in arguments do
    let path := Path.normalize argument
    match ← (System.mkFilePath [path]).metadata.toBaseIO with
    | .ok data =>
      let kind := match data.type with
        | .dir => .directory
        | .file => .regular
        | _ => .other
      kinds := (path, kind) :: kinds
    | .error _ => pure ()
  let mut captures := []
  if let .ok invocation := Console.parse (Capture.host environment kinds []) arguments then
    for dumper in [invocation.tools.symbols, invocation.tools.disassembly] do
      let command := dumper.command invocation.binary
      if let .ok output ← (IO.FS.readBinFile (Capture.path command)).toBaseIO then
        captures := (command, output) :: captures
  let outcome := Console.run Console.parser .plain (Capture.host environment kinds captures) arguments
  (← IO.getStdout).putStr outcome.stdout
  (← IO.getStderr).putStr outcome.stderr
  return outcome.exitCode.toUInt32
