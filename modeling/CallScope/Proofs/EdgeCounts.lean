import CallScope.Proofs.CallGraph
import Mathlib.Algebra.BigOperators.Group.Finset.Basic
import Mathlib.Algebra.GroupWithZero.Nat
import Mathlib.Algebra.Order.BigOperators.Group.List
import Mathlib.Algebra.Order.Group.Nat

/-!
This module contains how the counts of a call graph fit together. Every call leaves one function and enters one, so
adding up the degrees in either direction counts the calls.
-/

namespace CallScope

namespace Adjacency

variable {a : Adjacency} {source target name : String}

theorem row_insert : (a.insert source target).row name
    = if source = name then (a.row source).insert target else a.row name := by
  simp only [row, insert, Std.ExtTreeMap.getElem?_insert, Std.LawfulEqOrd.compare_eq_iff_eq]
  split <;> rfl

theorem size_row_insert (h : target ∉ a.row source) : ((a.insert source target).row name).size
    = (a.row name).size + if name = source then 1 else 0 := by
  rw [row_insert]
  by_cases hname : source = name
  · subst hname
    simp [Std.ExtTreeSet.size_insert, h]
  · simp [hname, Ne.symm hname]

end Adjacency

namespace CallGraph

variable {graph : CallGraph} {edge : Edge} {name : String}

theorem card_toFinset_edges (graph : CallGraph) : graph.edges.toFinset.card = graph.numEdges := by
  rw [List.toFinset_card_of_nodup (nodup_edges graph), length_edges]

theorem size_eq_card_filter {row : NameSet} {p : Edge → Prop} [DecidablePred p] (call : String → Edge)
    (hcall : Function.Injective call) (hrow : ∀ edge, edge ∈ graph ∧ p edge ↔ ∃ name ∈ row, call name = edge) :
    row.size = (graph.edges.toFinset.filter p).card := by
  have hfilter : graph.edges.toFinset.filter p = row.toList.toFinset.image call := by
    ext edge
    simp [mem_edges_iff, hrow]
  rw [hfilter, Finset.card_image_of_injective _ hcall, List.toFinset_card_of_nodup (nodup_toList row),
    Std.ExtTreeSet.length_toList]

theorem outDegree_eq_card (graph : CallGraph) (name : String) :
    graph.outDegree name = (graph.edges.toFinset.filter (·.caller = name)).card := by
  apply size_eq_card_filter fun callee => ⟨name, callee⟩
  · intro callee other h
    cases h
    rfl
  · intro edge
    constructor
    · rintro ⟨hmem, rfl⟩
      exact ⟨edge.callee, (graph.mem_outgoing_iff _ _).mpr hmem, rfl⟩
    · rintro ⟨callee, hrow, rfl⟩
      exact ⟨(graph.mem_outgoing_iff _ _).mp hrow, rfl⟩

theorem inDegree_eq_card (graph : CallGraph) (name : String) :
    graph.inDegree name = (graph.edges.toFinset.filter (·.callee = name)).card := by
  apply size_eq_card_filter fun caller => ⟨caller, name⟩
  · intro caller other h
    cases h
    rfl
  · intro edge
    constructor
    · rintro ⟨hmem, rfl⟩
      exact ⟨edge.caller, (graph.mem_incoming_iff _ _).mpr hmem, rfl⟩
    · rintro ⟨caller, hrow, rfl⟩
      exact ⟨(graph.mem_incoming_iff _ _).mp hrow, rfl⟩

/--
Calls are counted by their end points, if `names` has all of these.
-/
theorem sum_degree {endpoint : Edge → String} {degree : String → Nat} {names : List String} (hnodup : names.Nodup)
    (hnames : ∀ edge ∈ graph, endpoint edge ∈ names)
    (hdegree : ∀ name, degree name = (graph.edges.toFinset.filter (endpoint · = name)).card) :
    (names.map degree).sum = graph.numEdges := by
  have hmaps : ∀ edge ∈ graph.edges.toFinset, endpoint edge ∈ names.toFinset := by
    intro edge hedge
    rw [List.mem_toFinset] at hedge ⊢
    exact hnames edge (mem_edges_iff.mp hedge)
  rw [← List.sum_toFinset degree hnodup, ← card_toFinset_edges, Finset.card_eq_sum_card_fiberwise hmaps]
  apply Finset.sum_congr rfl
  intro name _
  exact hdegree name

theorem mem_names_iff : name ∈ graph.names ↔ IsEndpoint {edge | edge ∈ graph} name := by
  apply graph.shows_self.mem_names

theorem nodup_names (graph : CallGraph) : graph.names.Nodup := by
  apply nodup_toList

theorem sum_outDegree (graph : CallGraph) : (graph.names.map graph.outDegree).sum = graph.numEdges := by
  apply sum_degree (nodup_names graph) _ (outDegree_eq_card graph)
  intro edge hedge
  exact mem_names_iff.mpr ⟨edge, hedge, .inl rfl⟩

theorem sum_inDegree (graph : CallGraph) : (graph.names.map graph.inDegree).sum = graph.numEdges := by
  apply sum_degree (nodup_names graph) _ (inDegree_eq_card graph)
  intro edge hedge
  exact mem_names_iff.mpr ⟨edge, hedge, .inr rfl⟩

theorem outDegree_pos (h : edge ∈ graph) : 0 < graph.outDegree edge.caller := by
  rw [graph.shows_self.outDegree_eq]
  apply List.length_pos_of_mem (a := edge.callee)
  rwa [mem_callees_iff]

theorem inDegree_pos (h : edge ∈ graph) : 0 < graph.inDegree edge.callee := by
  rw [graph.shows_self.inDegree_eq]
  apply List.length_pos_of_mem (a := edge.caller)
  rwa [mem_callers_iff]

theorem degree_pos (h : name ∈ graph.names) : 1 ≤ graph.outDegree name + graph.inDegree name := by
  obtain ⟨edge, hedge, rfl | rfl⟩ := mem_names_iff.mp h
  · have hpos := outDegree_pos hedge
    omega
  · have hpos := inDegree_pos hedge
    omega

theorem numNodes_le (graph : CallGraph) : graph.numNodes ≤ 2 * graph.numEdges := by
  calc
    graph.numNodes = (graph.names.map fun _ => 1).sum := by
      rw [graph.shows_self.numNodes_eq]
      simp
    _ ≤ (graph.names.map fun name => graph.outDegree name + graph.inDegree name).sum := by
      apply List.sum_le_sum
      intro name hname
      exact degree_pos hname
    _ = 2 * graph.numEdges := by
      rw [List.sum_map_add, sum_outDegree, sum_inDegree]
      omega

theorem insert_of_mem (h : edge ∈ graph) : graph.insert edge = graph := by
  apply if_pos h

theorem insert_of_not_mem (h : edge ∉ graph) :
    (graph.insert edge).edgeSet = graph.edgeSet.insert edge
      ∧ (graph.insert edge).outgoing = graph.outgoing.insert edge.caller edge.callee
      ∧ (graph.insert edge).incoming = graph.incoming.insert edge.callee edge.caller := by
  unfold insert
  split
  · next hmem => exact absurd hmem h
  · exact ⟨rfl, rfl, rfl⟩

theorem numEdges_insert (h : edge ∉ graph) : (graph.insert edge).numEdges = graph.numEdges + 1 := by
  obtain ⟨hset, _, _⟩ := insert_of_not_mem h
  unfold numEdges
  rw [hset, Std.ExtTreeSet.size_insert, if_neg]
  rwa [Std.ExtTreeSet.contains_iff_mem]

theorem outDegree_insert (h : edge ∉ graph) :
    (graph.insert edge).outDegree name = graph.outDegree name + if name = edge.caller then 1 else 0 := by
  obtain ⟨_, houtgoing, _⟩ := insert_of_not_mem h
  unfold outDegree
  rw [houtgoing, Adjacency.size_row_insert]
  rwa [graph.mem_outgoing_iff]

theorem inDegree_insert (h : edge ∉ graph) :
    (graph.insert edge).inDegree name = graph.inDegree name + if name = edge.callee then 1 else 0 := by
  obtain ⟨_, _, hincoming⟩ := insert_of_not_mem h
  unfold inDegree
  rw [hincoming, Adjacency.size_row_insert]
  rwa [graph.mem_incoming_iff]

/--
All counts of a graph come from the same calls.
-/
structure CountsAgree (graph : CallGraph) : Prop where
  length_edges : graph.edges.length = graph.numEdges
  sum_outDegree : (graph.names.map graph.outDegree).sum = graph.numEdges
  sum_inDegree : (graph.names.map graph.inDegree).sum = graph.numEdges
  degree_pos : ∀ name ∈ graph.names, 1 ≤ graph.outDegree name + graph.inDegree name
  numNodes_le : graph.numNodes ≤ 2 * graph.numEdges

/--
What one more call changes in the counts of a graph. It counts once, for its two ends alone.
-/
structure CountsOneMore (graph : CallGraph) (edge : Edge) : Prop where
  numEdges_eq : (graph.insert edge).numEdges = graph.numEdges + 1
  outDegree_eq : ∀ name, (graph.insert edge).outDegree name
    = graph.outDegree name + if name = edge.caller then 1 else 0
  inDegree_eq : ∀ name, (graph.insert edge).inDegree name
    = graph.inDegree name + if name = edge.callee then 1 else 0

theorem counts_of_insertMany (added : List Edge) :
    CountsAgree ((∅ : CallGraph).insertMany added)
      ∧ (∀ edge ∉ added, CountsOneMore ((∅ : CallGraph).insertMany added) edge)
      ∧ ∀ edge ∈ added, ((∅ : CallGraph).insertMany added).insert edge = (∅ : CallGraph).insertMany added := by
  have hadded : ∀ edge, edge ∈ (∅ : CallGraph).insertMany added ↔ edge ∈ added := by
    intro edge
    simp only [mem_insertMany_iff, not_mem_empty, or_false]
  refine ⟨?_, ?_, ?_⟩
  · exact ⟨length_edges _, sum_outDegree _, sum_inDegree _, fun _ => degree_pos, numNodes_le _⟩
  · intro edge hedge
    rw [← hadded] at hedge
    exact ⟨numEdges_insert hedge, fun _ => outDegree_insert hedge, fun _ => inDegree_insert hedge⟩
  · intro edge hedge
    rw [← hadded] at hedge
    exact insert_of_mem hedge

theorem counts_of_insertMany_selfCall :
    CountsOneMore ((∅ : CallGraph).insertMany [⟨"main", "main"⟩]) ⟨"main", "exit"⟩
      ∧ ((∅ : CallGraph).insertMany [⟨"main", "main"⟩]).insert ⟨"main", "main"⟩
        = (∅ : CallGraph).insertMany [⟨"main", "main"⟩] := by
  obtain ⟨_, hnew, hold⟩ := counts_of_insertMany [⟨"main", "main"⟩]
  exact ⟨hnew ⟨"main", "exit"⟩ (by decide), hold ⟨"main", "main"⟩ (by decide)⟩

end CallGraph

end CallScope
