import CallScope.Load
import CallScope.Proofs.Survey

/-!
This module contains what the survey of two listings holds. It exists unless the symbol listing names the entry point
more than once.
-/

namespace CallScope

namespace SymbolListing

def entryAddresses (lines : List String) : List Address :=
  lines.filterMap fun line => (entryAddress? line.toList).map Int.ofNat

theorem entryAddresses_cases {lines : List String} (h : (entryAddresses lines).length ≤ 1) :
    entryAddresses lines = [] ∨ ∃ entry, entryAddresses lines = [entry] := by
  match hentries : entryAddresses lines with
  | [] => exact .inl rfl
  | [entry] => exact .inr ⟨entry, rfl⟩
  | _ :: _ :: _ => simp [hentries] at h

theorem readLine_entry? (inSymbols : Bool) (line : String) :
    (readLine inSymbols line).2.bind SymbolFact.entry? = (entryAddress? line.toList).map Int.ofNat := by
  unfold readLine
  cases hentry : entryAddress? line.toList with
  | some address =>
    simp only [hentry]
    rfl
  | none =>
    simp only [hentry]
    split
    · rfl
    · split
      · cases row? line.toList with
        | none => rfl
        | some row => rfl
      · rfl

theorem readLine_of_entry {inSymbols : Bool} {line : String} {address : Nat}
    (h : entryAddress? line.toList = some address) :
    readLine inSymbols line = (inSymbols, some (.entry address)) := by
  simp only [readLine, h]

theorem readLine_of_heading {inSymbols : Bool} {line : String} (hentry : entryAddress? line.toList = none)
    (hheading : isHeading line.toList = true) :
    readLine inSymbols line = (hasPart sectionMark line.toList, none) := by
  simp only [readLine, hentry, hheading, if_true]

theorem readLine_of_body {inSymbols : Bool} {line : String} (hentry : entryAddress? line.toList = none)
    (hheading : isHeading line.toList = false) :
    readLine inSymbols line
      = (inSymbols,
          if inSymbols then (row? line.toList).map fun row => .symbol row.1 (String.ofList row.2) else none) := by
  simp only [readLine, hentry, hheading]
  cases inSymbols <;> rfl

theorem readLines.length_go (inSymbols : Bool) (lines : List String) : (go inSymbols lines).length = lines.length := by
  induction lines generalizing inSymbols with
  | nil => rfl
  | cons line lines ih => simp [go, ih]

theorem readLines.go_entry? (inSymbols : Bool) (lines : List String) :
    (go inSymbols lines).filterMap (·.bind SymbolFact.entry?) = entryAddresses lines := by
  induction lines generalizing inSymbols with
  | nil => rfl
  | cons line lines ih =>
    unfold entryAddresses at ih ⊢
    rw [go, List.filterMap_cons, List.filterMap_cons, readLine_entry?, ih]

theorem filterMap_entry?_facts (lines : List String) :
    (facts lines).filterMap SymbolFact.entry? = entryAddresses lines := by
  unfold facts readLines
  rw [List.filterMap_filterMap]
  exact readLines.go_entry? false lines

end SymbolListing

namespace Disassembly

theorem isTransfer_of_readLine {line : String} {instruction : Instruction} (h : readLine line = some instruction) :
    instruction.isTransfer = true := by
  unfold readLine at h
  simp only [Option.bind_eq_bind, Option.bind_eq_some_iff] at h
  obtain ⟨_, _, operand, _, h⟩ := h
  split at h
  · cases h
  · cases h
    rfl

/--
Some line of a listing has an instruction that leads from `caller` to `callee`.
-/
def Calls (table : SymbolTable) (lines : List String) (caller callee : String) : Prop :=
  ∃ line ∈ lines, ∃ instruction, readLine line = some instruction
    ∧ table.BelongsTo instruction.source caller ∧ table.BelongsTo instruction.target callee

end Disassembly

namespace Survey

open SymbolListing (entryAddresses factFeed)

variable {ε : Type}

def listedTable (symbols : List String) : SymbolTable :=
  (SymbolTable.recordAll {} (SymbolListing.facts symbols)).1

theorem listedTable_entryPoint? (symbols : List String) :
    (listedTable symbols).entryPoint? = (entryAddresses symbols).head? := by
  rw [listedTable, (SymbolTable.recordAll_entries _ _).2, SymbolTable.entryPoints,
    SymbolListing.filterMap_entry?_facts]
  rfl

theorem mem_trace_instructions_iff {survey : Survey} {disassembly : List String} {edge : Edge}
    (h : survey.graph = ∅) :
    edge ∈ (survey.trace (Disassembly.instructions disassembly)).1.graph
      ↔ Disassembly.Calls survey.table disassembly edge.caller edge.callee := by
  rw [mem_trace_graph_iff, h]
  unfold Disassembly.instructions Disassembly.Calls
  simp only [CallGraph.not_mem_empty, false_or, List.mem_filterMap, SymbolTable.edge?_eq_some_iff]
  constructor
  · rintro ⟨instruction, ⟨line, hline, hread⟩, _, hcall⟩
    exact ⟨line, hline, instruction, hread, hcall⟩
  · rintro ⟨line, hline, instruction, hread, hcall⟩
    exact ⟨instruction, ⟨line, hline, hread⟩, Disassembly.isTransfer_of_readLine hread, hcall⟩

/--
The survey of a symbol listing, before any instruction is looked at.
-/
def listed (lines : List String) : Survey :=
  withSymbols {} (listedTable lines)

@[simp]
theorem listed_phase (lines : List String) : (listed lines).phase = .ready := by
  rfl

theorem symbolsFault?_factFeed (lines : Feed ε String) :
    symbolsFault? {} (factFeed lines)
      = ((SymbolTable.entryFault? (entryAddresses lines.items)).map .entry).or (lines.failure?.map .feed) := by
  unfold symbolsFault? factFeed
  rw [(SymbolTable.recordAll_entries _ _).1, SymbolTable.entryPoints, SymbolListing.filterMap_entry?_facts]
  rfl

theorem loadSymbols_factFeed_result (lines : Feed ε String) :
    (loadSymbols {} (factFeed lines)).result
      = (((SymbolTable.entryFault? (entryAddresses lines.items)).map .entry).or (lines.failure?.map .feed)).elim
          (.ok (listed lines.items)) .error := by
  rw [← symbolsFault?_factFeed]
  rcases loadSymbols_cases {} (factFeed lines) with ⟨hphase, _⟩ | ⟨_, _, hfault, hload⟩ | ⟨_, hfault, hload⟩
  · exact absurd rfl hphase
  · rw [hload, hfault]
    rfl
  · rw [hload, hfault]
    rfl

theorem loadSymbols_factFeed_ok {lines : List String} (h : (entryAddresses lines).length ≤ 1) :
    (loadSymbols {} (factFeed (⟨lines, none⟩ : Feed ε String))).result = .ok (listed lines) := by
  rw [loadSymbols_factFeed_result, SymbolTable.entryFault?_eq_none_iff.mpr h]
  rfl

theorem ofListings_eq {symbols : List String} (h : (entryAddresses symbols).length ≤ 1) (disassembly : List String) :
    ofListings symbols disassembly
      = ((listed symbols).loadInstructions ⟨Disassembly.instructions disassembly, none⟩).result := by
  show (loadSymbols {} (factFeed ⟨symbols, none⟩)).result >>= _ = _
  rw [loadSymbols_factFeed_ok h]
  rfl

theorem ofListings_eq_ok {symbols : List String} (h : (entryAddresses symbols).length ≤ 1)
    (disassembly : List String) :
    ∃ survey, ofListings symbols disassembly = .ok survey
      ∧ survey.table = listedTable symbols
      ∧ ∀ edge, edge ∈ survey.graph ↔ Disassembly.Calls (listedTable symbols) disassembly edge.caller edge.callee := by
  let feed : Feed ToolFault Instruction := ⟨Disassembly.instructions disassembly, none⟩
  rcases loadInstructions_cases (listed symbols) feed with ⟨hphase, _⟩ | ⟨hphase, _, htable, _, hgraph⟩
  · cases hphase
  · refine ⟨((listed symbols).loadInstructions feed).survey, ?_, htable, ?_⟩
    · rw [ofListings_eq h, loadInstructions_result hphase]
      rfl
    · intro edge
      rw [hgraph]
      exact mem_trace_instructions_iff rfl

end Survey

end CallScope
