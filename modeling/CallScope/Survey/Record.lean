import CallScope.CallGraph.Basic
import CallScope.SymbolTable

/-!
This module contains what listings say about a program, and how a symbol table takes it in.
-/

namespace CallScope

inductive SymbolFact where
  | entry (address : Address)
  | symbol (address : Address) (name : String)
  deriving DecidableEq, Repr

/--
An instruction at `source` that names the address `target`.
-/
structure Instruction where
  source : Address
  target : Address
  isTransfer : Bool := true
  deriving DecidableEq, Repr

namespace SymbolTable

def record (table : SymbolTable) : SymbolFact → Except EntryFault SymbolTable
  | .entry address => table.recordEntryPoint address
  | .symbol address name => .ok (table.insert address name)

/--
Take facts into the table, up to the first one that it refuses.
-/
def recordAll (table : SymbolTable) : List SymbolFact → SymbolTable × Option EntryFault
  | [] => (table, none)
  | fact :: facts =>
    match table.record fact with
    | .ok next => next.recordAll facts
    | .error fault => (table, some fault)

/--
Find the call that an instruction makes, if both of its ends belong to functions.
-/
def edge? (table : SymbolTable) (instruction : Instruction) : Option Edge := do
  let caller ← table.nameAt? instruction.source
  let callee ← table.nameAt? instruction.target
  return ⟨caller, callee⟩

end SymbolTable

end CallScope
