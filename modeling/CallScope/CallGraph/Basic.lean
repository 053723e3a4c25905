import CallScope.CallGraph.Adjacency
import CallScope.Numeral.Positional

/-!
This module contains the graph of which function calls which. It is kept as a set of calls and as an adjacency
in each direction, and the three agree.
-/

namespace CallScope

structure Edge where
  caller : String
  callee : String
  deriving DecidableEq, Repr

/--
Calls are ordered by their caller, and those of one caller by their callee.
-/
instance : Ord Edge := ⟨compareLex (compareOn Edge.caller) (compareOn Edge.callee)⟩

instance : Std.TransOrd Edge :=
  inferInstanceAs (Std.TransCmp (compareLex (compareOn Edge.caller) (compareOn Edge.callee)))

instance : Std.LawfulEqOrd Edge where
  eq_of_compare {a b} h := by
    have hlex : compare a.caller b.caller = .eq ∧ compare a.callee b.callee = .eq := compareLex_eq_eq.mp h
    obtain ⟨hcaller, hcallee⟩ := hlex
    cases a
    cases b
    cases Std.LawfulEqOrd.eq_of_compare hcaller
    cases Std.LawfulEqOrd.eq_of_compare hcallee
    rfl

structure CallGraph where
  edgeSet : Std.ExtTreeSet Edge := ∅
  outgoing : Adjacency := ∅
  incoming : Adjacency := ∅
  mem_outgoing_iff : ∀ caller callee,
    callee ∈ outgoing.row caller ↔ ⟨caller, callee⟩ ∈ edgeSet := by simp
  mem_incoming_iff : ∀ caller callee,
    caller ∈ incoming.row callee ↔ ⟨caller, callee⟩ ∈ edgeSet := by simp

namespace CallGraph

instance : EmptyCollection CallGraph := ⟨{}⟩

instance : Membership Edge CallGraph where
  mem graph edge := edge ∈ graph.edgeSet

def insert (graph : CallGraph) (edge : Edge) : CallGraph :=
  if edge ∈ graph.edgeSet then graph
  else
    { edgeSet := graph.edgeSet.insert edge
      outgoing := graph.outgoing.insert edge.caller edge.callee
      incoming := graph.incoming.insert edge.callee edge.caller
      mem_outgoing_iff caller callee := by
        cases edge
        simp [graph.mem_outgoing_iff]
      mem_incoming_iff caller callee := by
        cases edge
        simp [graph.mem_incoming_iff, and_comm] }

def insertMany (graph : CallGraph) (edges : List Edge) : CallGraph :=
  edges.foldl insert graph

def callees (graph : CallGraph) (name : String) : List String :=
  (graph.outgoing.row name).toList

def callers (graph : CallGraph) (name : String) : List String :=
  (graph.incoming.row name).toList

def outDegree (graph : CallGraph) (name : String) : Nat :=
  (graph.outgoing.row name).size

def inDegree (graph : CallGraph) (name : String) : Nat :=
  (graph.incoming.row name).size

def edges (graph : CallGraph) : List Edge :=
  graph.edgeSet.toList

def nameSet (graph : CallGraph) : NameSet :=
  Std.ExtTreeSet.ofList (graph.outgoing.names ++ graph.incoming.names)

def names (graph : CallGraph) : List String :=
  graph.nameSet.toList

def numNodes (graph : CallGraph) : Nat :=
  graph.nameSet.size

def numEdges (graph : CallGraph) : Nat :=
  graph.edgeSet.size

def contains (graph : CallGraph) (name : String) : Bool :=
  graph.outgoing.rows.contains name || graph.incoming.rows.contains name

def summary (graph : CallGraph) : String :=
  "CallGraph(nodes=" ++ Numeral.decimalText graph.numNodes
    ++ ", edges=" ++ Numeral.decimalText graph.numEdges ++ ")"

end CallGraph

end CallScope
