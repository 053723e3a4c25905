import CallScope.Json.Basic

/-!
This module contains the tools that the service offers, with what each one takes.
-/

namespace CallScope.Service

inductive Tool where
  | callers
  | callees
  | lookup
  | reach
  | stats
  deriving DecidableEq, Repr

/--
An argument that a tool takes. It is always a text.
-/
structure Parameter where
  name : String
  description : String
  isRequired : Bool := true
  deriving DecidableEq, Repr

namespace Parameter

def binary : Parameter := { name := "binary", description := "Path to the ELF binary" }

def function : Parameter := { name := "name", description := "Function name" }

def address : Parameter := { name := "address", description := "Address, hex (0x...) or decimal" }

def target : Parameter := { name := "target", description := "Function whose callers to report" }

def root : Parameter :=
  { name := "root", description := "Start function (optional)", isRequired := false }

def schema (parameter : Parameter) : Json :=
  .obj [("type", .str "string"), ("description", .str parameter.description)]

end Parameter

namespace Tool

def all : List Tool := [.callers, .callees, .lookup, .reach, .stats]

def name : Tool → String
  | .callers => "bincall_callers"
  | .callees => "bincall_callees"
  | .lookup => "bincall_lookup"
  | .reach => "bincall_reach"
  | .stats => "bincall_stats"

def ofName? (name : String) : Option Tool :=
  all.find? (·.name = name)

def description : Tool → String
  | .callers => "Find all functions in a binary that directly call a given function."
  | .callees => "Find all functions in a binary that a given function directly calls."
  | .lookup => "Resolve a code address to the function that contains it."
  | .reach =>
    "List the direct callers of a target function that are reachable "
      ++ "from a root function (default: the function containing the entry point)."
  | .stats => "Get symbol and call graph statistics for a binary."

def parameters : Tool → List Parameter
  | .callers | .callees => [.binary, .function]
  | .lookup => [.binary, .address]
  | .reach => [.binary, .target, .root]
  | .stats => [.binary]

def schema (tool : Tool) : Json :=
  .obj [("type", .str "object"),
    ("properties", .obj (tool.parameters.map fun parameter => (parameter.name, parameter.schema))),
    ("required", .strs ((tool.parameters.filter (·.isRequired)).map (·.name)))]

end Tool

end CallScope.Service
