import CallScope.Proofs.Reachability
import Mathlib.Data.List.Cycle
import Mathlib.Order.WellFounded

/-!
This module contains the end of every search, and what it has found by then: the names to which a path of one call or
more leads. So a function is among the names that it reaches just if it lies on a cycle.
-/

namespace CallScope

/--
A path along some calls. It begins at `source`, goes on to each of `names` in turn, and `target` is the last of them.
-/
structure IsPath (calls : Set Edge) (source : String) (names : List String) (target : String) : Prop where
  isChain : List.IsChain (fun caller callee => ⟨caller, callee⟩ ∈ calls) (source :: names)
  getLast?_eq : names.getLast? = some target

variable {calls : Set Edge} {graph : CallGraph} {root : String}

namespace IsPath

variable {source target : String} {names : List String}

theorem single (h : ⟨source, target⟩ ∈ calls) : IsPath calls source [target] target where
  isChain := by simpa using h
  getLast?_eq := rfl

theorem concat {via : String} (h : IsPath calls source names via) (hcall : ⟨via, target⟩ ∈ calls) :
    IsPath calls source (names ++ [target]) target where
  isChain := by
    rw [← List.cons_append, List.isChain_append]
    refine ⟨h.isChain, by simp, ?_⟩
    simpa [List.getLast?_cons, h.getLast?_eq] using hcall
  getLast?_eq := by simp

theorem transGen (h : IsPath calls source names target) :
    Relation.TransGen (fun caller callee => ⟨caller, callee⟩ ∈ calls) source target := by
  induction names generalizing source with
  | nil => cases h.getLast?_eq
  | cons first rest ih =>
    obtain ⟨hfirst, hrest⟩ := List.isChain_cons_cons.mp h.isChain
    cases rest with
    | nil =>
      cases h.getLast?_eq
      exact .single hfirst
    | cons second rest =>
      apply Relation.TransGen.head hfirst
      exact ih ⟨hrest, by simpa [List.getLast?_cons] using h.getLast?_eq⟩

end IsPath

theorem reaches_iff_exists_isPath {name : String} :
    Reaches graph root name ↔ ∃ names, IsPath {edge | edge ∈ graph} root names name := by
  constructor
  · intro h
    induction h with
    | call hcall => exact ⟨_, .single hcall⟩
    | step _ hcall ih =>
      obtain ⟨names, hpath⟩ := ih
      exact ⟨_, hpath.concat hcall⟩
  · rintro ⟨names, hpath⟩
    rw [reaches_iff_transGen]
    exact hpath.transGen

theorem exists_isPath_self_iff :
    (∃ names, IsPath calls root names root)
      ↔ ∃ cycle : Cycle String, root ∈ cycle ∧ cycle.Chain fun caller callee => ⟨caller, callee⟩ ∈ calls := by
  constructor
  · rintro ⟨names, hchain, hlast⟩
    obtain ⟨init, rfl⟩ := List.getLast?_eq_some_iff.mp hlast
    refine ⟨(root :: init : List String), by simp, ?_⟩
    rw [Cycle.chain_coe_cons]
    exact hchain
  · rintro ⟨cycle, hroot, hchain⟩
    induction cycle using Quotient.ind with
    | _ names =>
      -- A cycle has no beginning, so it may as well begin at the root.
      obtain ⟨before, after, rfl⟩ := List.append_of_mem (Cycle.mem_coe_iff.mp hroot)
      have hrotated : ((before ++ root :: after : List String) : Cycle String)
          = (root :: (after ++ before) : List String) := by
        rw [Cycle.coe_eq_coe, ← List.cons_append]
        apply List.isRotated_append
      have hchain : ((before ++ root :: after : List String) : Cycle String).Chain _ := hchain
      rw [hrotated, Cycle.chain_coe_cons] at hchain
      exact ⟨_, hchain, by simp⟩

namespace Search

/--
A search takes one step.
-/
def Steps (graph : CallGraph) (search next : Search) : Prop :=
  search.step? graph = some next

theorem exists_last (graph : CallGraph) (search : Search) :
    ∃ last, Relation.ReflTransGen (Steps graph) search last ∧ last.pending = [] ∧ search.run graph = last.visited := by
  fun_induction run graph search with
  | case1 search hnone => exact ⟨search, .refl, step?_eq_none_iff.mp hnone, rfl⟩
  | case2 search next hstep ih =>
    obtain ⟨last, hsteps, hlast⟩ := ih
    exact ⟨last, .head hstep hsteps, hlast⟩

theorem not_endless (graph : CallGraph) (searches : Nat → Search) :
    ¬∀ count, Steps graph (searches count) (searches (count + 1)) := by
  intro hsteps
  obtain ⟨count, hwork⟩ := WellFounded.not_rel_apply_succ (r := (· < ·)) fun count => (searches count).work graph
  exact hwork (work_lt_of_step? (hsteps count))

end Search

namespace CallGraph

/--
A search from `root` ends, and the names that it has visited then are those to which a path along `calls` leads.
-/
structure FindsClosure (graph : CallGraph) (calls : Set Edge) (root : String) : Prop where
  not_endless : ∀ searches : Nat → Search, searches 0 = .start graph root →
    ¬∀ count, Search.Steps graph (searches count) (searches (count + 1))
  exists_last : ∃ last, Relation.ReflTransGen (Search.Steps graph) (.start graph root) last
    ∧ last.pending = [] ∧ graph.reachable root = last.visited
  mem_reachable_iff : ∀ name, name ∈ graph.reachable root ↔ ∃ names, IsPath calls root names name
  mem_self_iff : root ∈ graph.reachable root
    ↔ ∃ cycle : Cycle String, root ∈ cycle ∧ cycle.Chain fun caller callee => ⟨caller, callee⟩ ∈ calls

theorem findsClosure_self (graph : CallGraph) (root : String) : graph.FindsClosure {edge | edge ∈ graph} root where
  not_endless searches _ := Search.not_endless graph searches
  exists_last := Search.exists_last graph (.start graph root)
  mem_reachable_iff name := by
    rw [CallGraph.mem_reachable_iff, reaches_iff_exists_isPath]
  mem_self_iff := by
    rw [CallGraph.mem_reachable_iff, reaches_iff_exists_isPath, exists_isPath_self_iff]

theorem findsClosure_insertMany (added : List Edge) (root : String) :
    ((∅ : CallGraph).insertMany added).FindsClosure {edge | edge ∈ added} root := by
  have hcalls : {edge | edge ∈ added} = {edge | edge ∈ (∅ : CallGraph).insertMany added} := by
    ext edge
    simp only [Set.mem_ofPred_eq, mem_insertMany_iff, not_mem_empty, or_false]
  rw [hcalls]
  apply findsClosure_self

end CallGraph

end CallScope
