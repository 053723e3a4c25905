import CallScope.Address
import Std.Data.ExtTreeMap

/-!
This module contains the table of a program's function symbols. A function reaches from its own address to
the next higher symbol address, so an address belongs to the symbol with the greatest address that is not
above it.
-/

namespace CallScope

structure Symbol where
  address : Address
  name : String
  deriving DecidableEq, Repr

inductive EntryFault where
  | unset
  | duplicate (address recorded : Address)
  deriving DecidableEq, Repr

def EntryFault.message : EntryFault → String
  | .unset => "Entry point undefined"
  | .duplicate address recorded =>
    "Duplicate entry point " ++ address.text ++ " (already " ++ recorded.text ++ ")"

/--
Names by address, with the address that was stored last and the program's entry point.
-/
structure SymbolTable where
  names : Std.ExtTreeMap Address String := ∅
  lastStored : Option Address := none
  entryPoint? : Option Address := none

namespace SymbolTable

def insert (table : SymbolTable) (address : Address) (name : String) : SymbolTable :=
  -- The first name of a run at one address stays. Any later repetition gives the address a new name.
  if address = Address.undefined ∨ table.lastStored = some address then table
  else { table with names := table.names.insert address name, lastStored := some address }

/--
Find the symbol that an address belongs to.
-/
def floor? (table : SymbolTable) (address : Address) : Option Symbol :=
  (table.names.getEntryLE? address).map fun entry => ⟨entry.1, entry.2⟩

def nameAt? (table : SymbolTable) (address : Address) : Option String :=
  (table.floor? address).map (·.name)

def symbols (table : SymbolTable) : List Symbol :=
  table.names.toList.map fun entry => ⟨entry.1, entry.2⟩

/--
Find the lowest address that is stored under a name.
-/
def addressOf? (table : SymbolTable) (name : String) : Option Address :=
  (table.symbols.find? (·.name = name)).map (·.address)

def size (table : SymbolTable) : Nat :=
  table.names.size

def contains (table : SymbolTable) (address : Address) : Bool :=
  table.names.contains address

def entryPoint (table : SymbolTable) : Except EntryFault Address :=
  match table.entryPoint? with
  | some address => .ok address
  | none => .error .unset

def recordEntryPoint (table : SymbolTable) (address : Address) : Except EntryFault SymbolTable :=
  match table.entryPoint? with
  | some recorded => .error (.duplicate address recorded)
  | none => .ok { table with entryPoint? := some address }

def hasEntryPoint (table : SymbolTable) : Bool :=
  table.entryPoint?.isSome

def summary (table : SymbolTable) : String :=
  let entry := (table.entryPoint?.map Address.text).getD "None"
  "SymbolTable(symbols=" ++ Numeral.decimalText table.size ++ ", entry_point=" ++ entry ++ ")"

end SymbolTable

end CallScope
