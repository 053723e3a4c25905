import CallScope.SymbolTable

/-!
This module contains the requests that a store of symbols serves, and how a symbol table serves them.
-/

namespace CallScope.SymbolTable

inductive Request where
  | insert (address : Address) (name : String)
  | recordEntryPoint (address : Address)
  | floor (address : Address)
  | nameAt (address : Address)
  | addressOf (name : String)
  | symbols
  | size
  | contains (address : Address)
  | entryPoint
  | hasEntryPoint
  deriving DecidableEq, Repr

inductive Reply where
  | done
  | refused (fault : EntryFault)
  | symbol (symbol? : Option Symbol)
  | name (name? : Option String)
  | address (address? : Option Address)
  | symbols (symbols : List Symbol)
  | count (count : Nat)
  | truth (truth : Bool)
  deriving DecidableEq, Repr

def Request.isUpdate : Request → Bool
  | .insert .. => true
  | .recordEntryPoint .. => true
  | _ => false

def Reply.ofEntryPoint : Except EntryFault Address → Reply
  | .ok point => .address (some point)
  | .error fault => .refused fault

def serve (table : SymbolTable) : Request → SymbolTable × Reply
  | .insert address name => (table.insert address name, .done)
  | .recordEntryPoint address =>
    match table.recordEntryPoint address with
    | .ok next => (next, .done)
    | .error fault => (table, .refused fault)
  | .floor address => (table, .symbol (table.floor? address))
  | .nameAt address => (table, .name (table.nameAt? address))
  | .addressOf name => (table, .address (table.addressOf? name))
  | .symbols => (table, .symbols table.symbols)
  | .size => (table, .count table.size)
  | .contains address => (table, .truth (table.contains address))
  | .entryPoint => (table, .ofEntryPoint table.entryPoint)
  | .hasEntryPoint => (table, .truth table.hasEntryPoint)

def serveAll (table : SymbolTable) (requests : List Request) : SymbolTable :=
  requests.foldl (fun table request => (table.serve request).1) table

end CallScope.SymbolTable
