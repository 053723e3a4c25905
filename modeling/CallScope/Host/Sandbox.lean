import CallScope.Host.Basic
import CallScope.Path

/-!
This module contains hosts that are held in memory. A sandbox has a directory tree to work in, a directory of
tools on the search path, and variables of the environment.
-/

namespace CallScope

/--
What a tool does when it is started. A negative exit code is the number of the signal that ends it.
-/
structure Program where
  output : List UInt8 := []
  exitCode : Int := 0
  deriving DecidableEq, Repr

/--
The exit code that the system reports, which keeps eight bits of the one that a tool gives.
-/
def Program.status (program : Program) : Int :=
  if program.exitCode < 0 then program.exitCode else program.exitCode % 256

/--
A file, which may be executable, or a directory with its entries.
-/
inductive Node where
  | file (program? : Option Program)
  | directory (entries : List (String × Node))

namespace Node

def kind : Node → FileKind
  | .file _ => .regular
  | .directory _ => .directory

/--
Words of a command have fewer octets than this.
-/
def wordLimit : Nat := 131072

/--
Names of files have fewer octets than this.
-/
def nameLimit : Nat := 256

/--
Paths have fewer octets than this.
-/
def pathLimit : Nat := 4096

def launch (command : Command) : Node → Launch
  | .file (some program) =>
    if command.words.any (wordLimit ≤ ·.utf8ByteSize) then .refused .wordTooLong
    else .ran program.output program.status
  | _ => .refused .notPermitted

/--
Follow parts of a path from a node, where `above` are the directories that lead to it, the nearest first.
Above the tree there are directories only, and nothing in them is known.
-/
def follow (above : List Node) (node : Node) : List String → Except Refusal Node
  | [] => .ok node
  | part :: parts =>
    match node with
    | .file _ => .error .notDirectory
    | .directory entries =>
      if part = "" ∨ part = "." then node.follow above parts
      else if part = ".." then
        match above with
        | [] => (Node.directory []).follow [] parts
        | parent :: above => parent.follow above parts
      else if nameLimit ≤ part.utf8ByteSize then .error .nameTooLong
      else
        match entries.lookup part with
        | none => .error .notFound
        | some child => child.follow (node :: above) parts

end Node

structure Sandbox where
  workingDirectory : Node
  searchDirectory : Node
  environment : List (String × String) := []

namespace Sandbox

def find (box : Sandbox) (path : String) : Except Refusal Node :=
  if path = "" ∨ path.contains '\x00' then .error .notFound
  else if Node.pathLimit ≤ path.utf8ByteSize then .error .nameTooLong
  else if path.startsWith "/" then (Node.directory []).follow [] (Path.parts path)
  else box.workingDirectory.follow [] (Path.parts path)

/--
Find the file that a tool's name stands for. A name with a slash is a path, any other is looked up in the
search directory.
-/
def findTool (box : Sandbox) (tool : String) : Except Refusal Node :=
  if tool.contains '/' then box.find tool else box.searchDirectory.follow [] [tool]

def host (box : Sandbox) : Host where
  environment? name := box.environment.lookup name
  kind path := (box.find path).map Node.kind
  launch command :=
    if command.hasNull then .malformed
    else
      match box.findTool command.tool with
      | .ok node => node.launch command
      | .error refusal => .refused refusal

end Sandbox

end CallScope
