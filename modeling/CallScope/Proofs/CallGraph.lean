import CallScope.CallGraph.Basic
import Mathlib.Data.List.Perm.Subperm
import Mathlib.Data.Set.Basic

/-!
This module contains what the views of a call graph show: after any sequence of insertions each of them shows the
calls that were inserted, in order and once.
-/

namespace CallScope

theorem compare_eq_lt_iff_lt {a b : String} : compare a b = .lt ↔ a < b := by
  apply compareOfLessAndEq_eq_lt

theorem nodup_toList {α : Type} [Ord α] [Std.TransOrd α] [Std.LawfulEqOrd α] (items : Std.ExtTreeSet α) :
    items.toList.Nodup := by
  apply List.Pairwise.imp _ Std.ExtTreeSet.distinct_toList
  intro a b h
  simpa using h

namespace NameSet

theorem pairwise_toList (names : NameSet) : names.toList.Pairwise (· < ·) := by
  apply List.Pairwise.imp _ Std.ExtTreeSet.ordered_toList
  intro a b h
  exact compare_eq_lt_iff_lt.mp h

theorem mem_insert_iff {names : NameSet} {a b : String} : b ∈ names.insert a ↔ a = b ∨ b ∈ names := by
  rw [Std.ExtTreeSet.mem_insert, Std.LawfulEqOrd.compare_eq_iff_eq]

end NameSet

namespace Edge

/--
The order in which calls are listed.
-/
def Precedes (a b : Edge) : Prop :=
  a.caller < b.caller ∨ (a.caller = b.caller ∧ a.callee < b.callee)

theorem compare_eq_lt_iff_precedes {a b : Edge} : compare a b = .lt ↔ a.Precedes b := by
  show (compare a.caller b.caller).then (compare a.callee b.callee) = .lt ↔ _
  rw [Ordering.then_eq_lt, compare_eq_lt_iff_lt, compare_eq_lt_iff_lt, Std.LawfulEqOrd.compare_eq_iff_eq]
  rfl

end Edge

namespace Adjacency

theorem mem_rows_iff {a : Adjacency} {name : String} : name ∈ a.rows ↔ ∃ target, target ∈ a.row name := by
  unfold row
  rw [Std.ExtTreeMap.mem_iff_isSome_getElem?]
  cases hrow : a.rows[name]? with
  | none => simp
  | some names =>
    have hne := a.rows_ne_empty name names hrow
    rw [ne_eq, Std.ExtTreeSet.eq_empty_iff_forall_not_mem, not_forall_not] at hne
    simpa using hne

theorem getElem?_rows (a : Adjacency) (name : String) :
    a.rows[name]? = if (a.row name).isEmpty then none else some (a.row name) := by
  unfold row
  cases hrow : a.rows[name]? with
  | none => simp
  | some names =>
    have hne := a.rows_ne_empty name names hrow
    simp [hne]

theorem eq_of_mem_row_iff {a b : Adjacency} (h : ∀ source target, target ∈ a.row source ↔ target ∈ b.row source) :
    a = b := by
  have hrows : a.rows = b.rows := by
    apply Std.ExtTreeMap.ext_getElem?
    intro name
    rw [getElem?_rows, getElem?_rows, Std.ExtTreeSet.ext_mem (h name)]
  cases a
  cases b
  cases hrows
  rfl

end Adjacency

namespace CallGraph

variable {graph : CallGraph} {edge : Edge}

theorem mem_insert_iff {other : Edge} : other ∈ graph.insert edge ↔ edge = other ∨ other ∈ graph := by
  unfold insert
  split
  -- A call that is there already changes nothing.
  · next hmem =>
    constructor
    · exact .inr
    · rintro (rfl | h)
      · exact hmem
      · exact h
  · show other ∈ graph.edgeSet.insert edge ↔ _
    rw [Std.ExtTreeSet.mem_insert, Std.LawfulEqOrd.compare_eq_iff_eq]
    rfl

theorem mem_insertMany_iff {edges : List Edge} :
    edge ∈ graph.insertMany edges ↔ edge ∈ edges ∨ edge ∈ graph := by
  unfold insertMany
  induction edges generalizing graph with
  | nil => simp
  | cons first edges ih =>
    rw [List.foldl_cons, ih, mem_insert_iff, List.mem_cons, eq_comm]
    exact or_left_comm.trans or_assoc.symm

theorem not_mem_empty : edge ∉ (∅ : CallGraph) := by
  apply Std.ExtTreeSet.not_mem_empty

theorem eq_of_mem_iff {a b : CallGraph} (h : ∀ edge, edge ∈ a ↔ edge ∈ b) : a = b := by
  have hedges : a.edgeSet = b.edgeSet := Std.ExtTreeSet.ext_mem h
  have houtgoing : a.outgoing = b.outgoing := by
    apply Adjacency.eq_of_mem_row_iff
    intro caller callee
    rw [a.mem_outgoing_iff, b.mem_outgoing_iff, hedges]
  have hincoming : a.incoming = b.incoming := by
    apply Adjacency.eq_of_mem_row_iff
    intro callee caller
    rw [a.mem_incoming_iff, b.mem_incoming_iff, hedges]
  cases a
  cases b
  cases hedges
  cases houtgoing
  cases hincoming
  rfl

theorem mem_edges_iff : edge ∈ graph.edges ↔ edge ∈ graph := by
  apply Std.ExtTreeSet.mem_toList

theorem nodup_edges (graph : CallGraph) : graph.edges.Nodup := by
  apply nodup_toList

theorem length_edges (graph : CallGraph) : graph.edges.length = graph.numEdges := by
  apply Std.ExtTreeSet.length_toList

theorem numEdges_le_length {calls : List Edge} (h : ∀ edge, edge ∈ graph ↔ edge ∈ calls) :
    graph.numEdges ≤ calls.length := by
  rw [← length_edges]
  apply List.Nodup.length_le_of_subset (nodup_edges graph)
  intro edge hedge
  rwa [← h, ← mem_edges_iff]

theorem numEdges_eq_zero_iff {calls : List Edge} (h : ∀ edge, edge ∈ graph ↔ edge ∈ calls) :
    graph.numEdges = 0 ↔ calls.length = 0 := by
  rw [← length_edges, List.length_eq_zero_iff, List.length_eq_zero_iff, List.eq_nil_iff_forall_not_mem,
    List.eq_nil_iff_forall_not_mem]
  simp only [mem_edges_iff, h]

theorem mem_callees_iff {caller callee : String} : callee ∈ graph.callees caller ↔ ⟨caller, callee⟩ ∈ graph := by
  unfold callees
  rw [Std.ExtTreeSet.mem_toList]
  exact graph.mem_outgoing_iff caller callee

theorem mem_callers_iff {caller callee : String} : caller ∈ graph.callers callee ↔ ⟨caller, callee⟩ ∈ graph := by
  unfold callers
  rw [Std.ExtTreeSet.mem_toList]
  exact graph.mem_incoming_iff caller callee

def IsEndpoint (calls : Set Edge) (name : String) : Prop :=
  ∃ edge ∈ calls, edge.caller = name ∨ edge.callee = name

theorem isEndpoint_iff {name : String} :
    IsEndpoint {edge | edge ∈ graph} name ↔ name ∈ graph.outgoing.rows ∨ name ∈ graph.incoming.rows := by
  rw [Adjacency.mem_rows_iff, Adjacency.mem_rows_iff]
  simp only [graph.mem_outgoing_iff, graph.mem_incoming_iff]
  constructor
  · rintro ⟨⟨caller, callee⟩, hmem, rfl | rfl⟩
    · exact .inl ⟨callee, hmem⟩
    · exact .inr ⟨caller, hmem⟩
  · rintro (⟨callee, hmem⟩ | ⟨caller, hmem⟩)
    · exact ⟨_, hmem, .inl rfl⟩
    · exact ⟨_, hmem, .inr rfl⟩

theorem mem_nameSet_iff {name : String} : name ∈ graph.nameSet ↔ IsEndpoint {edge | edge ∈ graph} name := by
  unfold nameSet Adjacency.names
  rw [isEndpoint_iff, Std.ExtTreeSet.mem_ofList, List.contains_iff_mem, List.mem_append, Std.ExtTreeMap.mem_keys,
    Std.ExtTreeMap.mem_keys]

/--
Every view of a graph shows exactly the given calls, in ascending order.
-/
structure Shows (graph : CallGraph) (calls : Set Edge) : Prop where
  pairwise_edges : graph.edges.Pairwise Edge.Precedes
  mem_edges : ∀ edge, edge ∈ graph.edges ↔ edge ∈ calls
  pairwise_callees : ∀ name, (graph.callees name).Pairwise (· < ·)
  mem_callees : ∀ name callee, callee ∈ graph.callees name ↔ ⟨name, callee⟩ ∈ calls
  outDegree_eq : ∀ name, graph.outDegree name = (graph.callees name).length
  pairwise_callers : ∀ name, (graph.callers name).Pairwise (· < ·)
  mem_callers : ∀ name caller, caller ∈ graph.callers name ↔ ⟨caller, name⟩ ∈ calls
  inDegree_eq : ∀ name, graph.inDegree name = (graph.callers name).length
  pairwise_names : graph.names.Pairwise (· < ·)
  mem_names : ∀ name, name ∈ graph.names ↔ IsEndpoint calls name
  numNodes_eq : graph.numNodes = graph.names.length
  contains_iff : ∀ name, graph.contains name = true ↔ IsEndpoint calls name
  mem_callees_iff_mem_callers : ∀ caller callee, callee ∈ graph.callees caller ↔ caller ∈ graph.callers callee

theorem shows_self (graph : CallGraph) : graph.Shows {edge | edge ∈ graph} where
  pairwise_edges := by
    apply List.Pairwise.imp _ Std.ExtTreeSet.ordered_toList
    intro a b h
    exact Edge.compare_eq_lt_iff_precedes.mp h
  mem_edges _ := mem_edges_iff
  pairwise_callees _ := NameSet.pairwise_toList _
  mem_callees _ _ := mem_callees_iff
  outDegree_eq _ := Std.ExtTreeSet.length_toList.symm
  pairwise_callers _ := NameSet.pairwise_toList _
  mem_callers _ _ := mem_callers_iff
  inDegree_eq _ := Std.ExtTreeSet.length_toList.symm
  pairwise_names := NameSet.pairwise_toList _
  mem_names _ := Std.ExtTreeSet.mem_toList.trans mem_nameSet_iff
  numNodes_eq := Std.ExtTreeSet.length_toList.symm
  contains_iff name := by
    unfold contains
    rw [isEndpoint_iff, Bool.or_eq_true, Std.ExtTreeMap.contains_iff_mem, Std.ExtTreeMap.contains_iff_mem]
  mem_callees_iff_mem_callers caller callee := by
    rw [mem_callees_iff, mem_callers_iff]

theorem shows_insertMany (added : List Edge) : ((∅ : CallGraph).insertMany added).Shows {edge | edge ∈ added} := by
  have hcalls : {edge | edge ∈ (∅ : CallGraph).insertMany added} = {edge | edge ∈ added} := by
    ext edge
    simp only [Set.mem_ofPred_eq, mem_insertMany_iff, not_mem_empty, or_false]
  rw [← hcalls]
  apply shows_self

end CallGraph

end CallScope
