import CallScope.Proofs.Listings
import CallScope.Proofs.Reachability
import CallScope.Service.Answer

/-!
This module contains the correctness of the answer to the question what a root reaches and what of it calls a target,
from the lines of the two listings to the lists in the answer.
-/

namespace CallScope

open Disassembly (Calls)
open SymbolListing (entryAddresses)
open Survey (listedTable)

namespace CallGraph

variable {graph : CallGraph} {root target name : String}

theorem pairwise_callersWithin (graph : CallGraph) (target : String) (names : NameSet) :
    (graph.callersWithin target names).Pairwise (· < ·) := by
  unfold callersWithin
  apply List.Pairwise.filter
  apply NameSet.pairwise_toList

theorem mem_callersWithin_iff {names : NameSet} :
    name ∈ graph.callersWithin target names ↔ name ∈ names ∧ ⟨name, target⟩ ∈ graph := by
  unfold callersWithin
  rw [List.mem_filter, mem_callers_iff, decide_eq_true_iff, and_comm]

theorem mem_reachable_iff_transGen {calls : String → String → Prop}
    (h : ∀ edge, edge ∈ graph ↔ calls edge.caller edge.callee) :
    name ∈ graph.reachable root ↔ Relation.TransGen calls root name := by
  have hcalls : (fun caller callee => ⟨caller, callee⟩ ∈ graph) = calls := by
    ext caller callee
    exact h ⟨caller, callee⟩
  rw [mem_reachable_iff, reaches_iff_transGen, hcalls]

end CallGraph

namespace Service

/--
An answer that lists what `root` reaches along `calls` and what of it calls `target`, both in ascending order.
-/
def IsReachAnswer (calls : String → String → Prop) (root target : String) (rootAddress : Json) (answer : Json) : Prop :=
  ∃ reachable callers,
    answer = .obj [("root", .str root), ("root_address", rootAddress), ("target", .str target),
      ("reachable", .strs reachable), ("callers", .strs callers)]
    ∧ reachable.Pairwise (· < ·)
    ∧ (∀ name, name ∈ reachable ↔ Relation.TransGen calls root name)
    ∧ callers.Pairwise (· < ·)
    ∧ ∀ name, name ∈ callers ↔ name ∈ reachable ∧ calls name target

theorem isReachAnswer_reach {survey : Survey} {calls : String → String → Prop}
    (h : ∀ edge, edge ∈ survey.graph ↔ calls edge.caller edge.callee) (root target : String) :
    IsReachAnswer calls root target (.ofAddress? (survey.table.addressOf? root))
      (reach survey (.str target) (.str root)) := by
  refine ⟨(survey.graph.reachable root).toList,
    survey.graph.callersWithin target (survey.graph.reachable root), rfl, ?_, ?_, ?_, ?_⟩
  · apply NameSet.pairwise_toList
  · intro name
    rw [Std.ExtTreeSet.mem_toList]
    exact CallGraph.mem_reachable_iff_transGen h
  · apply CallGraph.pairwise_callersWithin
  · intro name
    rw [CallGraph.mem_callersWithin_iff, Std.ExtTreeSet.mem_toList, h]

def noRoot : Json :=
  failure "No root given and no entry point function found"

theorem chooseRoot_null (survey : Survey) : chooseRoot survey .null = survey.table.entryFunction?.map .str := by
  simp only [chooseRoot, SymbolTable.bind_toOption_entryPoint]
  cases hentry : survey.table.hasEntryPoint with
  | true => rfl
  | false =>
    -- Without an entry point there is no function of it either.
    rw [SymbolTable.entryFunction?_of_hasEntryPoint hentry]
    rfl

theorem reach_null_of_entryFunction? {survey : Survey} {name : String} (h : survey.table.entryFunction? = some name)
    (target : Json) : reach survey target .null = reach survey target (.str name) := by
  unfold reach
  rw [chooseRoot_null, h]
  rfl

theorem reach_null_eq_noRoot_iff {survey : Survey} {target : Json} :
    reach survey target .null = noRoot ↔ survey.table.entryFunction? = none := by
  constructor
  · intro h
    cases hentry : survey.table.entryFunction? with
    | none => rfl
    | some name =>
      rw [reach_null_of_entryFunction? hentry] at h
      simp [reach, chooseRoot, noRoot, failure] at h
  · intro h
    unfold reach
    rw [chooseRoot_null, h]
    rfl

theorem entryFunction?_listedTable {symbols : List String} {entry : Address} (h : entryAddresses symbols = [entry]) :
    (listedTable symbols).entryFunction? = (listedTable symbols).nameAt? entry := by
  unfold SymbolTable.entryFunction?
  rw [Survey.listedTable_entryPoint?, h]
  rfl

theorem entryFunction?_listedTable_eq_none_iff {symbols : List String} (h : (entryAddresses symbols).length ≤ 1) :
    (listedTable symbols).entryFunction? = none
      ↔ entryAddresses symbols = []
        ∨ ∃ entry ∈ entryAddresses symbols, ∀ symbol ∈ (listedTable symbols).symbols, entry < symbol.address := by
  rw [SymbolTable.entryFunction?_eq_none_iff, Survey.listedTable_entryPoint?]
  rcases SymbolListing.entryAddresses_cases h with hnil | ⟨entry, hentry⟩
  · simp [hnil]
  · simp [hentry]

theorem reach_of_listings (symbols disassembly : List String) (h : (entryAddresses symbols).length ≤ 1) :
    ∃ survey, Survey.ofListings symbols disassembly = .ok survey
      ∧ ∀ target,
        (∀ root, IsReachAnswer (Calls (listedTable symbols) disassembly) root target
          (.ofAddress? ((listedTable symbols).addressOf? root)) (reach survey (.str target) (.str root)))
        ∧ (∀ entry ∈ entryAddresses symbols, ∀ name, (listedTable symbols).BelongsTo entry name →
            reach survey (.str target) .null = reach survey (.str target) (.str name))
        ∧ (reach survey (.str target) .null = noRoot
            ↔ entryAddresses symbols = []
              ∨ ∃ entry ∈ entryAddresses symbols, ∀ symbol ∈ (listedTable symbols).symbols, entry < symbol.address) := by
  obtain ⟨survey, hok, htable, hgraph⟩ := Survey.ofListings_eq_ok h disassembly
  refine ⟨survey, hok, ?_⟩
  intro target
  refine ⟨?_, ?_, ?_⟩
  · intro root
    rw [← htable] at hgraph ⊢
    exact isReachAnswer_reach hgraph root target
  · intro entry hentry name hname
    have hentries : entryAddresses symbols = [entry] := by
      rcases SymbolListing.entryAddresses_cases h with hnil | ⟨only, honly⟩
      · simp [hnil] at hentry
      · rw [honly, List.mem_singleton] at hentry
        rw [honly, hentry]
    apply reach_null_of_entryFunction?
    rw [htable, entryFunction?_listedTable hentries]
    exact SymbolTable.nameAt?_eq_some_iff.mpr hname
  · rw [reach_null_eq_noRoot_iff, htable]
    exact entryFunction?_listedTable_eq_none_iff h

def mutualSymbols : List String :=
  ["  Entry point address:               0x1004",
    "Symbol table '.symtab' contains 2 entries:",
    "     1: 0000000000001020    16 FUNC    GLOBAL DEFAULT   14 helper",
    "     2: 0000000000001000    16 FUNC    GLOBAL DEFAULT   14 main"]

def mutualDisassembly : List String :=
  ["    1004:\te8 17 00 00 00 \tcall   1020 <helper>", "    1024:\te8 d7 ff ff ff \tcall   1000 <main>"]

theorem reach_of_listings_mutual :
    (entryAddresses mutualSymbols).length ≤ 1
      ∧ ∃ survey, Survey.ofListings mutualSymbols mutualDisassembly = .ok survey
        ∧ IsReachAnswer (Calls (listedTable mutualSymbols) mutualDisassembly) "main" "main"
          (.ofAddress? ((listedTable mutualSymbols).addressOf? "main")) (reach survey (.str "main") .null) := by
  have hentries : (entryAddresses mutualSymbols).length ≤ 1 := by decide +kernel
  obtain ⟨survey, hok, hreach⟩ := reach_of_listings mutualSymbols mutualDisassembly hentries
  obtain ⟨hroot, hentry, _⟩ := hreach "main"
  refine ⟨hentries, survey, hok, ?_⟩
  rw [hentry 0x1004 (by decide +kernel) "main" (SymbolTable.nameAt?_eq_some_iff.mp (by decide +kernel))]
  exact hroot "main"

end Service

end CallScope
