import CallScope.CallGraph.Reachability
import CallScope.Proofs.CallGraph
import Mathlib.Logic.Relation

/-!
This module contains the correctness of the search for what a function reaches. At any moment of a search, what is
visited or pending is reachable, and what the root or a visited name calls is visited or pending.
-/

namespace CallScope

variable {graph : CallGraph} {root : String}

namespace Search

/--
The search after `name`, which was not visited before, is taken from the pending names.
-/
def expand (graph : CallGraph) (visited : NameSet) (name : String) (rest : List String) : Search :=
  ⟨visited.insert name, ((graph.callees name).filter (· ∉ visited.insert name)).reverse ++ rest⟩

theorem step?_eq_none_iff {search : Search} : search.step? graph = none ↔ search.pending = [] := by
  unfold step?
  cases search.pending with
  | nil => simp
  | cons name rest =>
    simp only
    split
    all_goals simp

theorem step?_cases {search next : Search} (h : search.step? graph = some next) :
    ∃ name rest, search.pending = name :: rest
      ∧ ((name ∈ search.visited ∧ next = ⟨search.visited, rest⟩)
        ∨ (name ∉ search.visited ∧ next = expand graph search.visited name rest)) := by
  unfold step? at h
  cases hpending : search.pending with
  | nil => simp [hpending] at h
  | cons name rest =>
    refine ⟨name, rest, rfl, ?_⟩
    simp only [hpending] at h
    split at h
    · next hmem =>
      cases h
      exact .inl ⟨hmem, rfl⟩
    · next hmem =>
      cases h
      exact .inr ⟨hmem, rfl⟩

def Seen (search : Search) (name : String) : Prop :=
  name ∈ search.visited ∨ name ∈ search.pending

theorem seen_expand_iff {visited : NameSet} {first name : String} {rest : List String} :
    (expand graph visited first rest).Seen name
      ↔ name ∈ visited ∨ first = name ∨ name ∈ rest ∨ ⟨first, name⟩ ∈ graph := by
  unfold expand Seen
  simp only [List.mem_append, List.mem_reverse, List.mem_filter, NameSet.mem_insert_iff, CallGraph.mem_callees_iff,
    decide_eq_true_iff]
  grind

/--
What holds between the steps of a search from `root`.
-/
structure Invariant (graph : CallGraph) (root : String) (search : Search) : Prop where
  reaches : ∀ name, search.Seen name → Reaches graph root name
  seen_of_root : ∀ name, ⟨root, name⟩ ∈ graph → search.Seen name
  seen_of_visited : ∀ via ∈ search.visited, ∀ name, ⟨via, name⟩ ∈ graph → search.Seen name

theorem invariant_start (graph : CallGraph) (root : String) : (start graph root).Invariant graph root where
  reaches name h := by
    rcases h with hvisited | hpending
    · exact absurd hvisited Std.ExtTreeSet.not_mem_empty
    · exact .call (CallGraph.mem_callees_iff.mp (List.mem_reverse.mp hpending))
  seen_of_root name h := .inr (List.mem_reverse.mpr (CallGraph.mem_callees_iff.mpr h))
  seen_of_visited via hvia := absurd hvia Std.ExtTreeSet.not_mem_empty

theorem Invariant.drop {visited : NameSet} {first : String} {rest : List String}
    (h : Invariant graph root ⟨visited, first :: rest⟩) (hmem : first ∈ visited) :
    Invariant graph root ⟨visited, rest⟩ := by
  have hseen : ∀ name, Seen ⟨visited, rest⟩ name ↔ Seen ⟨visited, first :: rest⟩ name := by
    intro name
    unfold Seen
    simp only [List.mem_cons]
    constructor
    · rintro (hvisited | hrest)
      · exact .inl hvisited
      · exact .inr (.inr hrest)
    · rintro (hvisited | rfl | hrest)
      · exact .inl hvisited
      · exact .inl hmem
      · exact .inr hrest
  refine ⟨?_, ?_, ?_⟩
  all_goals simp only [hseen]
  · apply h.reaches
  · apply h.seen_of_root
  · apply h.seen_of_visited

theorem Invariant.expand {visited : NameSet} {first : String} {rest : List String}
    (h : Invariant graph root ⟨visited, first :: rest⟩) :
    Invariant graph root (Search.expand graph visited first rest) := by
  have hfirst : Reaches graph root first := h.reaches first (.inr List.mem_cons_self)
  have hseen : ∀ name, Seen ⟨visited, first :: rest⟩ name → (Search.expand graph visited first rest).Seen name := by
    intro name hname
    rw [seen_expand_iff]
    rcases hname with hvisited | hpending
    · exact .inl hvisited
    · rcases List.mem_cons.mp hpending with rfl | hrest
      · exact .inr (.inl rfl)
      · exact .inr (.inr (.inl hrest))
  refine ⟨?_, ?_, ?_⟩
  · intro name hname
    rcases seen_expand_iff.mp hname with hvisited | rfl | hrest | hcall
    · exact h.reaches name (.inl hvisited)
    · exact hfirst
    · exact h.reaches name (.inr (List.mem_cons_of_mem _ hrest))
    · exact hfirst.step hcall
  · intro name hcall
    exact hseen name (h.seen_of_root name hcall)
  · intro via hvia name hcall
    rcases NameSet.mem_insert_iff.mp hvia with rfl | hvisited
    · exact seen_expand_iff.mpr (.inr (.inr (.inr hcall)))
    · exact hseen name (h.seen_of_visited via hvisited name hcall)

theorem Invariant.step {search next : Search} (h : search.Invariant graph root)
    (hstep : search.step? graph = some next) : next.Invariant graph root := by
  obtain ⟨first, rest, hpending, hcases⟩ := step?_cases hstep
  obtain ⟨visited, pending⟩ := search
  subst hpending
  rcases hcases with ⟨hmem, rfl⟩ | ⟨_, rfl⟩
  · exact h.drop hmem
  · apply h.expand

theorem Invariant.mem_run_iff {search : Search} (h : search.Invariant graph root) {name : String} :
    name ∈ search.run graph ↔ Reaches graph root name := by
  fun_induction run graph search with
  | case1 search hnone =>
    -- Nothing is pending, so what the root or a visited name calls is visited.
    have hpending := step?_eq_none_iff.mp hnone
    have hvisited : ∀ n, search.Seen n → n ∈ search.visited := by
      rintro n (hn | hn)
      · exact hn
      · rw [hpending] at hn
        cases hn
    constructor
    · intro hmem
      exact h.reaches name (.inl hmem)
    · intro hreaches
      induction hreaches with
      | call hcall => exact hvisited _ (h.seen_of_root _ hcall)
      | step _ hcall ih => exact hvisited _ (h.seen_of_visited _ ih _ hcall)
  | case2 search next hstep ih => exact ih (h.step hstep)

end Search

namespace CallGraph

theorem mem_reachable_iff {name : String} : name ∈ graph.reachable root ↔ Reaches graph root name := by
  unfold reachable
  exact (Search.invariant_start graph root).mem_run_iff

end CallGraph

theorem reaches_iff_transGen {name : String} :
    Reaches graph root name ↔ Relation.TransGen (fun caller callee => ⟨caller, callee⟩ ∈ graph) root name := by
  constructor
  · intro h
    induction h with
    | call hcall => exact .single hcall
    | step _ hcall ih => exact ih.tail hcall
  · intro h
    induction h with
    | single hcall => exact .call hcall
    | tail _ hcall ih => exact .step ih hcall

end CallScope
