import CallScope.Address

/-!
This module contains what a survey counts, and what it reports while it goes on.
-/

namespace CallScope

structure Tally where
  symbols : Nat := 0
  instructions : Nat := 0
  callSites : Nat := 0
  edges : Nat := 0
  unresolved : Nat := 0
  deriving DecidableEq, Repr

def Tally.summary (tally : Tally) : String :=
  "BuildStats(symbols=" ++ Numeral.decimalText tally.symbols
    ++ ", instructions=" ++ Numeral.decimalText tally.instructions
    ++ ", call_sites=" ++ Numeral.decimalText tally.callSites
    ++ ", edges=" ++ Numeral.decimalText tally.edges
    ++ ", unresolved=" ++ Numeral.decimalText tally.unresolved ++ ")"

inductive Notice where
  | loaded (symbols : Nat)
  | unresolved (source target : Address)
  | resolved (callSites edges unresolved : Nat)
  deriving DecidableEq, Repr

def Notice.text : Notice → String
  | .loaded symbols => "INFO Loaded " ++ Numeral.decimalText symbols ++ " symbols"
  | .unresolved source target => "DEBUG Unresolved call site " ++ source.text ++ " -> " ++ target.text
  | .resolved callSites edges rest =>
    "INFO Resolved " ++ Numeral.decimalText callSites ++ " call sites into "
      ++ Numeral.decimalText edges ++ " edges (" ++ Numeral.decimalText rest ++ " unresolved)"

end CallScope
