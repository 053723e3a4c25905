import CallScope.CallGraph.Reachability
import CallScope.Survey.Basic

/-!
This module contains the questions that a finished survey answers.
-/

namespace CallScope

structure Location where
  address : Address
  symbol? : Option Symbol
  deriving DecidableEq, Repr

def Symbol.offset (symbol : Symbol) (address : Address) : Int :=
  address - symbol.address

structure Reach where
  rootAddress? : Option Address
  reachable : List String
  callers : List String
  deriving DecidableEq, Repr

namespace Survey

def locate (survey : Survey) (address : Address) : Location :=
  ⟨address, survey.table.floor? address⟩

/--
Find what a root reaches, and what of it calls a target. A root or target without a name is no function: it
reaches nothing and nothing calls it.
-/
def reach (survey : Survey) (root? target? : Option String) : Reach :=
  let reachable := root?.elim ∅ survey.graph.reachable
  { rootAddress? := root?.bind survey.table.addressOf?
    reachable := reachable.toList
    callers := target?.elim [] (survey.graph.callersWithin · reachable) }

end Survey

end CallScope
