import CallScope.Host.Basic

/-!
This module contains the two tools that describe a program, and how they are started.
-/

namespace CallScope

/--
A tool with the arguments that go before the name of the binary.
-/
structure Dumper where
  tool : String
  arguments : List String
  deriving DecidableEq, Repr

def Dumper.command (dumper : Dumper) (binary : String) : Command :=
  ⟨dumper.tool, dumper.arguments ++ [binary]⟩

structure Toolchain where
  symbols : Dumper := ⟨"readelf", ["--headers", "--symbols", "--wide"]⟩
  disassembly : Dumper := ⟨"objdump", ["--disassemble", "--wide"]⟩
  deriving DecidableEq, Repr

namespace Toolchain

def symbolsVariable : String := "BINCALL_READELF"

def disassemblyVariable : String := "BINCALL_OBJDUMP"

def standard : Toolchain := {}

def ofTools (symbols disassembly : String) : Toolchain where
  symbols := { standard.symbols with tool := symbols }
  disassembly := { standard.disassembly with tool := disassembly }

/--
The tools that the environment names, or else the standard ones.
-/
def ofEnvironment (host : Host) : Toolchain :=
  ofTools ((host.environment? symbolsVariable).getD standard.symbols.tool)
    ((host.environment? disassemblyVariable).getD standard.disassembly.tool)

end Toolchain

end CallScope
