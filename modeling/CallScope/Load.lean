import CallScope.Disassembly
import CallScope.SymbolListing
import CallScope.Toolchain

/-!
This module contains surveys of whole listings, and surveys of a binary with the tools of a host. The
disassembly of a binary starts only when its symbols are complete.
-/

namespace CallScope

abbrev LoadFault := SurveyFault ToolFault

def LoadFault.text (fault : LoadFault) : String :=
  fault.message ToolFault.message

def Survey.ofListings (symbols disassembly : List String) : Except LoadFault Survey :=
  build ⟨SymbolListing.facts symbols, none⟩ ⟨Disassembly.instructions disassembly, none⟩

structure Loaded where
  result : Except LoadFault Survey
  notices : List Notice
  started : List Command

/--
Survey a binary, given what comes of starting each of the tools.
-/
def Toolchain.load (tools : Toolchain) (binary : String) (first second : Launch) : Loaded :=
  let dump := tools.symbols.command binary
  let symbols := Survey.loadSymbols {} (SymbolListing.factFeed (first.feed dump.tool))
  match symbols.result with
  | .error fault => ⟨.error fault, symbols.notices, first.started dump⟩
  | .ok ready =>
    let disassemble := tools.disassembly.command binary
    let calls := ready.loadInstructions (Disassembly.instructionFeed (second.feed disassemble.tool))
    ⟨calls.result, symbols.notices ++ calls.notices, first.started dump ++ second.started disassemble⟩

def Host.load (host : Host) (tools : Toolchain) (binary : String) : Loaded :=
  tools.load binary (host.launch (tools.symbols.command binary)) (host.launch (tools.disassembly.command binary))

end CallScope
