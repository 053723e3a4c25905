import CallScope.Proofs.EdgeCounts
import CallScope.Proofs.Reachability
import Mathlib.Data.Nat.Find

/-!
This module contains how many steps a search takes. A name becomes pending once for every call from the root and from
each name that is expanded, and no name is expanded twice, so the calls bound the steps.
-/

namespace CallScope

variable {graph : CallGraph} {root name : String}

namespace Search

variable {search next : Search} {fuel : Nat}

/--
Take at most `fuel` steps.
-/
def runFor (graph : CallGraph) : Nat → Search → Search
  | 0, search => search
  | fuel + 1, search =>
    match search.step? graph with
    | none => search
    | some next => runFor graph fuel next

theorem runFor_of_step? (h : search.step? graph = some next) :
    search.runFor graph (fuel + 1) = next.runFor graph fuel := by
  rw [runFor, h]

theorem runFor_of_pending (h : search.pending = []) : search.runFor graph fuel = search := by
  cases fuel with
  | zero => rfl
  | succ fuel => rw [runFor, step?_eq_none_iff.mpr h]

/--
One more step, taken at the end.
-/
theorem runFor_succ : search.runFor graph (fuel + 1)
    = ((search.runFor graph fuel).step? graph).getD (search.runFor graph fuel) := by
  induction fuel generalizing search with
  | zero =>
    unfold runFor
    cases search.step? graph <;> rfl
  | succ fuel ih =>
    cases hstep : search.step? graph with
    | none =>
      have hpending := step?_eq_none_iff.mp hstep
      rw [runFor_of_pending hpending, runFor_of_pending hpending, hstep]
      rfl
    | some next => rw [runFor_of_step? hstep, runFor_of_step? hstep, ih]

theorem run_of_step? (h : search.step? graph = some next) : search.run graph = next.run graph := by
  rw [run]
  split
  · next hnone =>
    rw [h] at hnone
    cases hnone
  · next hsome =>
    rw [h] at hsome
    cases hsome
    rfl

theorem run_of_pending (h : search.pending = []) : search.run graph = search.visited := by
  rw [run]
  split
  · rfl
  · next hsome =>
    rw [step?_eq_none_iff.mpr h] at hsome
    cases hsome

theorem run_runFor : (search.runFor graph fuel).run graph = search.run graph := by
  induction fuel generalizing search with
  | zero => rfl
  | succ fuel ih =>
    cases hstep : search.step? graph with
    | none => rw [runFor_of_pending (step?_eq_none_iff.mp hstep)]
    | some next => rw [runFor_of_step? hstep, ih, run_of_step? hstep]

theorem pending_runFor (h : search.work graph ≤ fuel) : (search.runFor graph fuel).pending = [] := by
  induction fuel generalizing search with
  | zero =>
    have hlength : search.pending.length = 0 := by
      unfold work at h
      omega
    exact List.length_eq_zero_iff.mp hlength
  | succ fuel ih =>
    cases hstep : search.step? graph with
    | none =>
      have hpending := step?_eq_none_iff.mp hstep
      rwa [runFor_of_pending hpending]
    | some next =>
      have hwork := work_lt_of_step? hstep
      rw [runFor_of_step? hstep]
      apply ih
      omega

theorem rowsWork_empty (rows : List (String × NameSet)) : rowsWork ∅ rows = (rows.map (·.2.size)).sum := by
  induction rows with
  | nil => rfl
  | cons row rows ih => simp [rowsWork, rowWork, ih]

theorem unexplored_empty (graph : CallGraph) : unexplored graph ∅ = graph.numEdges := by
  have hrows : graph.outgoing.rows.toList.map (·.2.size) = graph.outgoing.names.map graph.outDegree := by
    unfold Adjacency.names
    rw [← Std.ExtTreeMap.map_fst_toList_eq_keys, List.map_map]
    apply List.map_congr_left
    intro row hrow
    have hget := Std.ExtTreeMap.mem_toList_iff_getElem?_eq_some.mp hrow
    simp [CallGraph.outDegree, Adjacency.row, hget]
  rw [unexplored, rowsWork_empty, hrows]
  apply CallGraph.sum_degree _ _ (CallGraph.outDegree_eq_card graph)
  · exact Std.ExtTreeMap.nodup_keys
  · intro edge hedge
    unfold Adjacency.names
    rw [Std.ExtTreeMap.mem_keys, Adjacency.mem_rows_iff]
    exact ⟨edge.callee, (graph.mem_outgoing_iff _ _).mpr hedge⟩

theorem work_start (graph : CallGraph) (root : String) :
    (start graph root).work graph = graph.outDegree root + graph.numEdges := by
  simp [work, start, unexplored_empty, graph.shows_self.outDegree_eq]

/--
The next step of a search expands a name: it is on top of the stack and new.
-/
def Expands (search : Search) (name : String) : Prop :=
  search.pending.head? = some name ∧ name ∉ search.visited

theorem mem_visited_runFor_succ (h : name ∈ (search.runFor graph fuel).visited) :
    name ∈ (search.runFor graph (fuel + 1)).visited := by
  rw [runFor_succ]
  cases hstep : (search.runFor graph fuel).step? graph with
  | none => exact h
  | some next =>
    obtain ⟨first, rest, _, ⟨_, rfl⟩ | ⟨_, rfl⟩⟩ := step?_cases hstep
    · exact h
    · exact NameSet.mem_insert_iff.mpr (.inr h)

theorem mem_visited_runFor_of_le {more : Nat} (hle : fuel ≤ more) (h : name ∈ (search.runFor graph fuel).visited) :
    name ∈ (search.runFor graph more).visited := by
  induction hle with
  | refl => exact h
  | step _ ih => exact mem_visited_runFor_succ ih

theorem Expands.mem_visited (h : (search.runFor graph fuel).Expands name) :
    name ∈ (search.runFor graph (fuel + 1)).visited := by
  obtain ⟨hhead, hnew⟩ := h
  obtain ⟨rest, hpending⟩ := List.head?_eq_some_iff.mp hhead
  rw [runFor_succ]
  cases hstep : (search.runFor graph fuel).step? graph with
  | none =>
    rw [step?_eq_none_iff.mp hstep] at hpending
    cases hpending
  | some next =>
    obtain ⟨first, others, hfirst, hcases⟩ := step?_cases hstep
    rw [hpending] at hfirst
    cases hfirst
    rcases hcases with ⟨hold, _⟩ | ⟨_, rfl⟩
    · exact absurd hold hnew
    · exact NameSet.mem_insert_iff.mpr (.inl rfl)

theorem Expands.not_of_lt {later : Nat} (h : (search.runFor graph fuel).Expands name) (hlt : fuel < later) :
    ¬(search.runFor graph later).Expands name := by
  rintro ⟨_, hnew⟩
  exact hnew (mem_visited_runFor_of_le hlt h.mem_visited)

theorem exists_count (h : search.work graph ≤ fuel) :
    ∃ count ≤ fuel, (∀ earlier < count, (search.runFor graph earlier).pending ≠ [])
      ∧ (search.runFor graph count).pending = [] := by
  have hends : ∃ count, (search.runFor graph count).pending = [] := ⟨fuel, pending_runFor h⟩
  refine ⟨Nat.find hends, Nat.find_min' hends (pending_runFor h), ?_, Nat.find_spec hends⟩
  intro earlier hearlier
  exact Nat.find_min hends hearlier

end Search

namespace CallGraph

/--
A search from `root` expands no name twice, and takes as many steps at most as the root has callees and the graph has
calls.
-/
structure SearchesLinearly (graph : CallGraph) (root : String) : Prop where
  expands_once : ∀ name count later, ((Search.start graph root).runFor graph count).Expands name →
    ((Search.start graph root).runFor graph later).Expands name → count = later
  exists_count : ∃ count ≤ graph.outDegree root + graph.numEdges,
    (∀ earlier < count, ((Search.start graph root).runFor graph earlier).pending ≠ [])
      ∧ ((Search.start graph root).runFor graph count).pending = []
  visited_eq : ∀ fuel, graph.outDegree root + graph.numEdges ≤ fuel →
    ((Search.start graph root).runFor graph fuel).visited = graph.reachable root

theorem searchesLinearly (graph : CallGraph) (root : String) : graph.SearchesLinearly root where
  expands_once name count later hcount hlater := by
    rcases Nat.lt_trichotomy count later with hlt | heq | hgt
    · exact absurd hlater (hcount.not_of_lt hlt)
    · exact heq
    · exact absurd hcount (hlater.not_of_lt hgt)
  exists_count := by
    apply Search.exists_count
    exact Nat.le_of_eq (Search.work_start graph root)
  visited_eq fuel hfuel := by
    have hpending : ((Search.start graph root).runFor graph fuel).pending = [] := by
      apply Search.pending_runFor
      rwa [Search.work_start]
    rw [← Search.run_of_pending hpending, Search.run_runFor]
    rfl

end CallGraph

end CallScope
