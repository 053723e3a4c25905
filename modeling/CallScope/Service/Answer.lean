import CallScope.Json.Basic
import CallScope.Numeral.Literal
import CallScope.Survey.Query

/-!
This module contains the answers of the service as JSON values. A text names a function. A value of another
kind names none, and the answer repeats it.
-/

namespace CallScope.Service

def failure (message : String) : Json :=
  .obj [("error", .str message)]

def callers (survey : Survey) (name : Json) : Json :=
  .obj [("name", name), ("callers", .strs (name.text?.elim [] survey.graph.callers))]

def callees (survey : Survey) (name : Json) : Json :=
  .obj [("name", name), ("callees", .strs (name.text?.elim [] survey.graph.callees))]

def location (location : Location) : Json :=
  match location.symbol? with
  | none => .obj [("address", .str location.address.text), ("function", .null)]
  | some symbol =>
    .obj [("address", .str location.address.text), ("function", .str symbol.name),
      ("start", .str symbol.address.text), ("offset", .int (symbol.offset location.address))]

def lookup (survey : Survey) (text : String) : Json :=
  match Numeral.literal? text with
  | none => failure ("Invalid address '" ++ text ++ "'")
  | some address => location (survey.locate address)

/--
The root to search from: the one given unless it is null, or else the function of the entry point. The entry point is
asked for only if there is one.
-/
def chooseRoot (survey : Survey) : Json → Option Json
  | .null =>
    if survey.table.hasEntryPoint then (survey.table.entryPoint.toOption.bind survey.table.nameAt?).map .str else none
  | root => some root

def reach (survey : Survey) (target root : Json) : Json :=
  match chooseRoot survey root with
  | none => failure "No root given and no entry point function found"
  | some root =>
    let found := survey.reach root.text? target.text?
    .obj [("root", root), ("root_address", .ofAddress? found.rootAddress?),
      ("target", target), ("reachable", .strs found.reachable), ("callers", .strs found.callers)]

def stats (survey : Survey) : Json :=
  .obj [("symbols", .int survey.tally.symbols), ("call_sites", .int survey.tally.callSites),
    ("unresolved", .int survey.tally.unresolved), ("functions", .int survey.graph.numNodes),
    ("edges", .int survey.tally.edges), ("entry_point", .ofAddress? survey.table.entryPoint?)]

end CallScope.Service
