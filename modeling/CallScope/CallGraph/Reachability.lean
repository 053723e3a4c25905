import CallScope.CallGraph.Basic

/-!
This module contains what a function reaches by one call or more: `Reaches` as a relation, and
`CallGraph.reachable` as the set that a search finds, which expands every name at most once. The search ends
because each of its steps uses up a pending name or the calls of a name that was not visited before, and
`Search.work` counts both.
-/

namespace CallScope

/--
A chain of at least one call leads from `root` to a name.
-/
inductive Reaches (graph : CallGraph) (root : String) : String → Prop where
  | call {name : String} : ⟨root, name⟩ ∈ graph → Reaches graph root name
  | step {via name : String} : Reaches graph root via → ⟨via, name⟩ ∈ graph → Reaches graph root name

/--
A search keeps its pending names as a stack. The names that a function calls are put on it in ascending order, so that
the greatest of them is on top.
-/
structure Search where
  visited : NameSet
  pending : List String

namespace Search

def start (graph : CallGraph) (root : String) : Search :=
  ⟨∅, (graph.callees root).reverse⟩

/--
Look at one pending name. If it is new, what it calls becomes pending.
-/
def step? (graph : CallGraph) (search : Search) : Option Search :=
  match search.pending with
  | [] => none
  | name :: rest =>
    if name ∈ search.visited then some { search with pending := rest }
    else
      let visited := search.visited.insert name
      some ⟨visited, ((graph.callees name).filter (· ∉ visited)).reverse ++ rest⟩

def rowWork (visited : NameSet) (row : String × NameSet) : Nat :=
  if row.1 ∈ visited then 0 else row.2.size

def rowsWork (visited : NameSet) : List (String × NameSet) → Nat
  | [] => 0
  | row :: rows => rowWork visited row + rowsWork visited rows

def unexplored (graph : CallGraph) (visited : NameSet) : Nat :=
  rowsWork visited graph.outgoing.rows.toList

/--
A bound on the steps that a search still takes.
-/
def work (graph : CallGraph) (search : Search) : Nat :=
  search.pending.length + unexplored graph search.visited

theorem rowWork_insert_le (visited : NameSet) (name : String) (row : String × NameSet) :
    rowWork (visited.insert name) row ≤ rowWork visited row := by
  unfold rowWork
  split
  · exact Nat.zero_le _
  · rename_i h
    exact Nat.le_of_eq (if_neg fun hmem => h (Std.ExtTreeSet.mem_insert.mpr (.inr hmem))).symm

theorem rowsWork_insert_le (visited : NameSet) (name : String) (rows : List (String × NameSet)) :
    rowsWork (visited.insert name) rows ≤ rowsWork visited rows := by
  induction rows with
  | nil => exact Nat.le_refl _
  | cons row rows ih => exact Nat.add_le_add (rowWork_insert_le visited name row) ih

theorem rowsWork_insert_add_size_le {visited : NameSet} {name : String} {row : NameSet}
    {rows : List (String × NameSet)} (hnew : name ∉ visited) (hrow : (name, row) ∈ rows) :
    rowsWork (visited.insert name) rows + row.size ≤ rowsWork visited rows := by
  induction rows with
  | nil => cases hrow
  | cons first rows ih =>
    simp only [rowsWork]
    rcases List.mem_cons.mp hrow with rfl | hmem
    · have hrest := rowsWork_insert_le visited name rows
      have hold : rowWork visited (name, row) = row.size := if_neg hnew
      have hvisited : rowWork (visited.insert name) (name, row) = 0 :=
        if_pos Std.ExtTreeSet.mem_insert_self
      omega
    · have hrest := ih hmem
      have hfirst := rowWork_insert_le visited name first
      omega

theorem unexplored_insert_add_outDegree_le (graph : CallGraph) {visited : NameSet}
    {name : String} (hnew : name ∉ visited) :
    unexplored graph (visited.insert name) + graph.outDegree name ≤ unexplored graph visited := by
  unfold unexplored CallGraph.outDegree Adjacency.row
  cases hrow : graph.outgoing.rows[name]? with
  | none => simpa using rowsWork_insert_le visited name _
  | some row =>
    exact rowsWork_insert_add_size_le hnew (Std.ExtTreeMap.mem_toList_iff_getElem?_eq_some.mpr hrow)

theorem work_lt_of_step? {graph : CallGraph} {search next : Search}
    (h : search.step? graph = some next) : next.work graph < search.work graph := by
  unfold step? at h
  split at h
  · cases h
  · rename_i name rest hpending
    split at h
    · cases h
      simp [work, hpending]
    · rename_i hnew
      cases h
      have hexplored := unexplored_insert_add_outDegree_le graph hnew
      have hfilter := List.length_filter_le (· ∉ search.visited.insert name) (graph.callees name)
      have hlength : (graph.callees name).length = graph.outDegree name :=
        Std.ExtTreeSet.length_toList
      simp only [work, hpending, List.length_append, List.length_reverse, List.length_cons]
      omega

def run (graph : CallGraph) (search : Search) : NameSet :=
  match _h : search.step? graph with
  | none => search.visited
  | some next => run graph next
termination_by search.work graph
decreasing_by exact work_lt_of_step? _h

end Search

namespace CallGraph

def reachable (graph : CallGraph) (root : String) : NameSet :=
  (Search.start graph root).run graph

def callersWithin (graph : CallGraph) (target : String) (names : NameSet) : List String :=
  (graph.callers target).filter (· ∈ names)

def reachableCallers (graph : CallGraph) (root target : String) : List String :=
  graph.callersWithin target (graph.reachable root)

end CallGraph

end CallScope
