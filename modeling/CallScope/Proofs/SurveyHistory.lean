import CallScope.Proofs.Survey

/-!
This module contains what holds of a survey after any sequence of requests to load symbols or instructions, whether
their feeds fail and whether the requests are refused. As long as symbols can still be loaded, no instruction has been
looked at, so that every call is found with the symbols that are there in the end.
-/

namespace CallScope.Survey

variable {ε : Type} {survey : Survey}

inductive Request (ε : Type) where
  | symbols (feed : Feed ε SymbolFact)
  | instructions (feed : Feed ε Instruction)

def perform (survey : Survey) : Request ε → Progress Survey ε
  | .symbols feed => survey.loadSymbols feed
  | .instructions feed => survey.loadInstructions feed

def performAll (survey : Survey) (requests : List (Request ε)) : Survey :=
  requests.foldl (fun survey request => (survey.perform request).survey) survey

/--
The instructions that a request takes from its feed, which are none if it is refused.
-/
def consumed (survey : Survey) : Request ε → List Instruction
  | .symbols _ => []
  | .instructions feed =>
    match (survey.loadInstructions feed).fault? with
    | some (.order _) => []
    | _ => feed.items

def consumedAll (survey : Survey) : List (Request ε) → List Instruction
  | [] => []
  | request :: requests => survey.consumed request ++ (survey.perform request).survey.consumedAll requests

theorem performAll_cons (request : Request ε) (requests : List (Request ε)) :
    survey.performAll (request :: requests) = (survey.perform request).survey.performAll requests := by
  rfl

theorem performAll_append (before after : List (Request ε)) :
    survey.performAll (before ++ after) = (survey.performAll before).performAll after := by
  apply List.foldl_append

/--
What both parts of a survey preserve, where `I` relates a survey to the instructions looked at, holds after any history.
-/
theorem performAll_invariant {I : Survey → List Instruction → Prop}
    (hsymbols : ∀ survey instructions (feed : Feed ε SymbolFact),
      I survey instructions → I (survey.loadSymbols feed).survey instructions)
    (hinstructions : ∀ survey instructions (feed : Feed ε Instruction),
      I survey instructions →
        I (survey.loadInstructions feed).survey (instructions ++ survey.consumed (.instructions feed)))
    {instructions : List Instruction} (h : I survey instructions) (requests : List (Request ε)) :
    I (survey.performAll requests) (instructions ++ survey.consumedAll requests) := by
  induction requests generalizing survey instructions with
  | nil =>
    rw [consumedAll, List.append_nil]
    exact h
  | cons request requests ih =>
    rw [performAll_cons, consumedAll, ← List.append_assoc]
    apply ih
    cases request with
    | symbols feed =>
      rw [consumed, List.append_nil]
      apply hsymbols survey instructions feed h
    | instructions feed => apply hinstructions survey instructions feed h

/--
The calls of a survey are those that its table finds in the instructions looked at so far. There are none of these
before the symbols are complete.
-/
structure Consistent (survey : Survey) (instructions : List Instruction) : Prop where
  eq_nil_of_phase : survey.phase = .symbols → instructions = []
  mem_graph_iff : ∀ edge, edge ∈ survey.graph
    ↔ ∃ site ∈ instructions, site.isTransfer = true ∧ survey.table.edge? site = some edge

theorem consistent_empty : Consistent {} [] where
  eq_nil_of_phase _ := rfl
  mem_graph_iff edge := by
    constructor
    · intro h
      exact absurd h CallGraph.not_mem_empty
    · rintro ⟨_, hmem, _⟩
      cases hmem

theorem Consistent.loadSymbols {instructions : List Instruction} (h : survey.Consistent instructions)
    (feed : Feed ε SymbolFact) : (survey.loadSymbols feed).survey.Consistent instructions := by
  rcases loadSymbols_cases survey feed with ⟨_, _, hload⟩ | ⟨hphase, _, _, hload⟩ | ⟨hphase, _, hload⟩
  · rw [hload]
    exact h
  -- The table changes, but no instruction was looked at with the old one.
  all_goals
    have hnil := h.eq_nil_of_phase hphase
    have hgraph := h.mem_graph_iff
    rw [hload]
    subst hnil
    refine ⟨fun _ => rfl, ?_⟩
    simpa using hgraph

theorem consumed_of_phase_eq (h : survey.phase = .symbols) (feed : Feed ε Instruction) :
    survey.consumed (.instructions feed) = [] := by
  rcases loadInstructions_cases survey feed with ⟨_, hload⟩ | ⟨hphase, _⟩
  · simp only [consumed, hload]
  · exact absurd h hphase

theorem consumed_of_phase_ne (h : survey.phase ≠ .symbols) (feed : Feed ε Instruction) :
    survey.consumed (.instructions feed) = feed.items := by
  rcases loadInstructions_cases survey feed with ⟨hphase, _⟩ | ⟨_, hfault, _⟩
  · exact absurd hphase h
  · simp only [consumed, hfault]
    cases feed.failure? with
    | none => rfl
    | some failure => rfl

theorem Consistent.loadInstructions {instructions : List Instruction} (h : survey.Consistent instructions)
    (feed : Feed ε Instruction) :
    (survey.loadInstructions feed).survey.Consistent (instructions ++ survey.consumed (.instructions feed)) := by
  rcases loadInstructions_cases survey feed with ⟨hphase, hload⟩ | ⟨hphase, _, htable, hnext, hgraph⟩
  · rw [consumed_of_phase_eq hphase, List.append_nil, hload]
    exact h
  · rw [consumed_of_phase_ne hphase]
    refine ⟨?_, ?_⟩
    · intro hsymbols
      rw [hnext] at hsymbols
      cases hsymbols
    · intro edge
      rw [hgraph, htable, mem_trace_graph_iff, h.mem_graph_iff]
      simp only [List.mem_append, or_and_right, exists_or]

theorem Consistent.performAll {instructions : List Instruction} (h : survey.Consistent instructions)
    (requests : List (Request ε)) :
    (survey.performAll requests).Consistent (instructions ++ survey.consumedAll requests) := by
  apply performAll_invariant
  · intro _ _ feed h
    apply h.loadSymbols
  · intro _ _ feed h
    apply h.loadInstructions
  · exact h

theorem perform_of_phase_ne (h : survey.phase ≠ .symbols) (request : Request ε) :
    (survey.perform request).survey.table = survey.table ∧ (survey.perform request).survey.phase ≠ .symbols := by
  cases request with
  | symbols feed =>
    rcases loadSymbols_cases survey feed with ⟨_, _, hload⟩ | ⟨hphase, _⟩ | ⟨hphase, _⟩
    · rw [perform, hload]
      exact ⟨rfl, h⟩
    all_goals exact absurd hphase h
  | instructions feed =>
    rcases loadInstructions_cases survey feed with ⟨hphase, _⟩ | ⟨_, _, htable, hnext, _⟩
    · exact absurd hphase h
    · rw [perform, hnext]
      exact ⟨htable, by simp⟩

theorem performAll_of_phase_ne (h : survey.phase ≠ .symbols) (requests : List (Request ε)) :
    (survey.performAll requests).table = survey.table ∧ (survey.performAll requests).phase ≠ .symbols := by
  induction requests generalizing survey with
  | nil => exact ⟨rfl, h⟩
  | cons request requests ih =>
    obtain ⟨htable, hphase⟩ := perform_of_phase_ne h request
    rw [performAll_cons, ← htable]
    exact ih hphase

theorem phase_ne_of_loadSymbols {feed : Feed ε SymbolFact} (h : (survey.loadSymbols feed).fault? = none) :
    (survey.loadSymbols feed).survey.phase ≠ .symbols := by
  rcases loadSymbols_cases survey feed with ⟨_, _, hload⟩ | ⟨_, _, _, hload⟩ | ⟨_, _, hload⟩
  · rw [hload] at h
    cases h
  · rw [hload] at h
    cases h
  · rw [hload]
    simp

/--
Some request to load symbols came to its end.
-/
def SymbolsCompleted (requests : List (Request ε)) : Prop :=
  ∃ before feed after, requests = before ++ .symbols feed :: after
    ∧ ((performAll {} before).loadSymbols feed).fault? = none

theorem phase_ne_of_symbolsCompleted {requests : List (Request ε)} (h : SymbolsCompleted requests) :
    (performAll {} requests).phase ≠ .symbols := by
  obtain ⟨before, feed, after, rfl, hfault⟩ := h
  rw [performAll_append, performAll_cons]
  exact (performAll_of_phase_ne (phase_ne_of_loadSymbols hfault) after).2

theorem calls_of_history (requests : List (Request ε)) :
    (∀ edge, edge ∈ (performAll {} requests).graph.edges
        ↔ ∃ site ∈ consumedAll {} requests, site.isTransfer = true
          ∧ (performAll {} requests).table.BelongsTo site.source edge.caller
          ∧ (performAll {} requests).table.BelongsTo site.target edge.callee)
      ∧ (SymbolsCompleted requests → ∀ later,
          (performAll {} (requests ++ later)).table = (performAll {} requests).table)
      ∧ ∀ name ∈ (performAll {} requests).graph.names, ∃ start,
          (performAll {} requests).table.addressOf? name = some start
          ∧ (performAll {} requests).table.nameAt? start = some name := by
  have hconsistent := consistent_empty.performAll requests
  rw [List.nil_append] at hconsistent
  refine ⟨?_, ?_, ?_⟩
  · intro edge
    rw [CallGraph.mem_edges_iff, hconsistent.mem_graph_iff]
    simp only [SymbolTable.edge?_eq_some_iff]
  · intro hcompleted later
    rw [performAll_append]
    exact (performAll_of_phase_ne (phase_ne_of_symbolsCompleted hcompleted) later).1
  · intro name hname
    obtain ⟨edge, hedge, hend⟩ := ((CallGraph.shows_self _).mem_names name).mp hname
    obtain ⟨site, _, _, hsite⟩ := (hconsistent.mem_graph_iff edge).mp hedge
    obtain ⟨hcaller, hcallee⟩ := SymbolTable.edge?_eq_some_iff.mp hsite
    rcases hend with rfl | rfl
    · exact SymbolTable.exists_addressOf?_of_nameAt? (SymbolTable.nameAt?_eq_some_iff.mpr hcaller)
    · exact SymbolTable.exists_addressOf?_of_nameAt? (SymbolTable.nameAt?_eq_some_iff.mpr hcallee)

def retriedRequests : List (Request String) :=
  -- The first request is refused, and the feeds of the second and the last one fail.
  [.instructions ⟨[⟨0x1004, 0x1020, true⟩], none⟩,
    .symbols ⟨[.symbol 0x1020 "helper"], some "broken"⟩,
    .symbols ⟨[.symbol 0x1000 "main"], none⟩,
    .instructions ⟨[⟨0x1008, 0x1024, true⟩], some "broken"⟩]

theorem calls_of_history_retried :
    SymbolsCompleted retriedRequests
      ∧ (∀ later, (performAll {} (retriedRequests ++ later)).table = (performAll {} retriedRequests).table)
      ∧ ⟨"main", "helper"⟩ ∈ (performAll {} retriedRequests).graph.edges := by
  have hcompleted : SymbolsCompleted retriedRequests :=
    ⟨retriedRequests.take 2, _, retriedRequests.drop 3, rfl, by decide +kernel⟩
  obtain ⟨hedges, htable, _⟩ := calls_of_history retriedRequests
  refine ⟨hcompleted, htable hcompleted, ?_⟩
  rw [hedges]
  refine ⟨⟨0x1008, 0x1024, true⟩, by decide +kernel, rfl, ?_⟩
  rw [← SymbolTable.nameAt?_eq_some_iff, ← SymbolTable.nameAt?_eq_some_iff]
  decide +kernel

end CallScope.Survey
