import CallScope.Proofs.SurveyOrder

/-!
This module contains what the tally of a survey says after any history of requests: each record that was read is counted
once, under what became of it.
-/

namespace CallScope

namespace SymbolTable

variable {table : SymbolTable}

theorem filter_isUnresolved (table : SymbolTable) (instructions : List Instruction) :
    instructions.filter table.isUnresolved
      = (instructions.filter (·.isTransfer)).filter fun site => (table.edge? site).isNone := by
  rw [List.filter_filter]
  apply List.filter_congr
  intro site _
  rw [edge?_isNone, Bool.and_comm]
  rfl

theorem length_callsOf_add (table : SymbolTable) (instructions : List Instruction) :
    (table.callsOf instructions).length + instructions.countP table.isUnresolved
      = instructions.countP (·.isTransfer) := by
  have hlength := List.length_eq_length_filter_add (l := instructions.filter (·.isTransfer))
    fun site => (table.edge? site).isNone
  simp only [Option.not_isNone] at hlength
  rw [callsOf, List.length_filterMap_eq_countP, List.countP_eq_length_filter, List.countP_eq_length_filter,
    List.countP_eq_length_filter, filter_isUnresolved]
  omega

end SymbolTable

namespace Survey

variable {ε : Type} {survey : Survey}

/--
The report on a feed of instructions: each transfer that the table cannot resolve, in order, and the counts at the end
if the feed comes to it.
-/
def reportOn (table : SymbolTable) (feed : Feed ε Instruction) (tally : Tally) : List Notice :=
  table.noticesOf feed.items
    ++ feed.failure?.elim [.resolved (tally.callSites - tally.unresolved) tally.edges tally.unresolved] fun _ => []

theorem loadInstructions_notices (h : survey.phase ≠ .symbols) (feed : Feed ε Instruction) :
    (survey.loadInstructions feed).notices
      = reportOn survey.table feed (survey.loadInstructions feed).survey.tally := by
  obtain ⟨items, failure?⟩ := feed
  cases failure? with
  | some failure =>
    rw [loadInstructions_failed h, trace_eq, reportOn, Option.elim_some, List.append_nil]
    rfl
  | none =>
    rw [loadInstructions_completed h, trace_eq]
    rfl

/--
The tally of a survey counts the instructions that were read, and its symbols when they are complete.
-/
structure Counts (survey : Survey) (instructions : List Instruction) : Prop extends survey.Consistent instructions where
  symbols_eq : survey.tally.symbols = if survey.phase = .symbols then 0 else survey.table.size
  instructions_eq : survey.tally.instructions = instructions.length
  callSites_eq : survey.tally.callSites = instructions.countP (·.isTransfer)
  unresolved_eq : survey.tally.unresolved = instructions.countP survey.table.isUnresolved

theorem counts_empty : Counts {} [] where
  toConsistent := consistent_empty
  symbols_eq := rfl
  instructions_eq := rfl
  callSites_eq := rfl
  unresolved_eq := rfl

theorem Counts.loadSymbols {instructions : List Instruction} (h : survey.Counts instructions)
    (feed : Feed ε SymbolFact) : (survey.loadSymbols feed).survey.Counts instructions := by
  have hconsistent := h.toConsistent.loadSymbols feed
  rcases loadSymbols_cases survey feed with ⟨_, _, hload⟩ | ⟨hphase, _, _, hload⟩ | ⟨hphase, _, hload⟩
  · rw [hload]
    exact h
  -- The table changes, but nothing was counted with the old one.
  all_goals
    obtain rfl := h.eq_nil_of_phase hphase
    rw [hload] at hconsistent ⊢
    refine ⟨hconsistent, ?_, h.instructions_eq, h.callSites_eq, h.unresolved_eq⟩
    simp [h.symbols_eq, hphase, withSymbols]

theorem Counts.loadInstructions {instructions : List Instruction} (h : survey.Counts instructions)
    (feed : Feed ε Instruction) :
    (survey.loadInstructions feed).survey.Counts (instructions ++ survey.consumed (.instructions feed)) := by
  have hconsistent := h.toConsistent.loadInstructions feed
  rcases loadInstructions_cases survey feed with ⟨hphase, hload⟩ | ⟨hphase, _, htable, hnext, _⟩
  · rw [consumed_of_phase_eq hphase, List.append_nil, hload]
    exact h
  · rw [consumed_of_phase_ne hphase] at hconsistent ⊢
    refine ⟨hconsistent, ?_, ?_, ?_, ?_⟩
    · simp [loadInstructions_tally hphase, htable, hnext, h.symbols_eq, hphase]
    · simp [loadInstructions_tally hphase, h.instructions_eq]
    · simp [loadInstructions_tally hphase, h.callSites_eq]
    · simp [loadInstructions_tally hphase, htable, h.unresolved_eq]

theorem Counts.performAll {instructions : List Instruction} (h : survey.Counts instructions)
    (requests : List (Request ε)) :
    (survey.performAll requests).Counts (instructions ++ survey.consumedAll requests) := by
  apply performAll_invariant
  · intro _ _ feed h
    apply h.loadSymbols
  · intro _ _ feed h
    apply h.loadInstructions
  · exact h

theorem Counts.numEdges_add_unresolved_le {instructions : List Instruction} (h : survey.Counts instructions) :
    survey.graph.numEdges + survey.tally.unresolved ≤ survey.tally.callSites := by
  have hlength := survey.table.length_callsOf_add instructions
  have hle := CallGraph.numEdges_le_length fun edge => (h.mem_graph_iff edge).trans SymbolTable.mem_callsOf_iff.symm
  rw [h.unresolved_eq, h.callSites_eq]
  omega

theorem Counts.numEdges_eq_zero_iff {instructions : List Instruction} (h : survey.Counts instructions) :
    survey.graph.numEdges = 0 ↔ survey.tally.callSites = survey.tally.unresolved := by
  have hlength := survey.table.length_callsOf_add instructions
  rw [CallGraph.numEdges_eq_zero_iff fun edge => (h.mem_graph_iff edge).trans SymbolTable.mem_callsOf_iff.symm,
    h.unresolved_eq, h.callSites_eq]
  omega

/--
How each request to load instructions went that was not refused.
-/
def accepted (survey : Survey) : List (Request ε) → List (Progress Survey ε)
  | [] => []
  | .symbols feed :: requests => (survey.loadSymbols feed).survey.accepted requests
  | .instructions feed :: requests =>
    match (survey.loadInstructions feed).fault? with
    | some (.order _) => (survey.loadInstructions feed).survey.accepted requests
    | _ => survey.loadInstructions feed :: (survey.loadInstructions feed).survey.accepted requests

theorem accepted_of_phase_eq (h : survey.phase = .symbols) (feed : Feed ε Instruction) (requests : List (Request ε)) :
    survey.accepted (.instructions feed :: requests) = survey.accepted requests := by
  rcases loadInstructions_cases survey feed with ⟨_, hload⟩ | ⟨hphase, _⟩
  · simp [accepted, hload]
  · exact absurd h hphase

theorem accepted_of_phase_ne (h : survey.phase ≠ .symbols) (feed : Feed ε Instruction) (requests : List (Request ε)) :
    survey.accepted (.instructions feed :: requests)
      = survey.loadInstructions feed :: (survey.loadInstructions feed).survey.accepted requests := by
  rcases loadInstructions_cases survey feed with ⟨hphase, _⟩ | ⟨_, hfault, _⟩
  · exact absurd hphase h
  · rw [accepted, hfault]
    cases feed.failure? <;> rfl

theorem loadSymbols_keeps (survey : Survey) (feed : Feed ε SymbolFact) :
    (survey.loadSymbols feed).survey.graph = survey.graph
      ∧ (survey.loadSymbols feed).survey.tally.edges = survey.tally.edges := by
  rcases loadSymbols_cases survey feed with ⟨_, _, hload⟩ | ⟨_, _, _, hload⟩ | ⟨_, _, hload⟩
  all_goals
    rw [hload]
    exact ⟨rfl, rfl⟩

theorem edges_performAll (survey : Survey) (requests : List (Request ε)) :
    (survey.performAll requests).tally.edges
      = (((survey.accepted requests).filter (·.fault?.isNone)).getLast?.map (·.survey.graph.numEdges)).getD
          survey.tally.edges := by
  induction requests generalizing survey with
  | nil => rfl
  | cons request requests ih =>
    rw [performAll_cons, ih]
    cases request with
    | symbols feed => rw [perform, accepted, (loadSymbols_keeps survey feed).2]
    | instructions feed =>
      rcases loadInstructions_cases survey feed with ⟨hphase, hload⟩ | ⟨hphase, hfault, _⟩
      · rw [accepted_of_phase_eq hphase, perform, hload]
      · rw [accepted_of_phase_ne hphase, perform, loadInstructions_tally hphase, List.filter_cons, hfault]
        -- A feed that fails leaves the old count, one that does not is the last so far.
        cases feed.failure? with
        | some failure => rfl
        | none =>
          simp only [Option.map_none, Option.isNone_none, if_true, Option.elim_none, List.getLast?_cons]
          cases ((survey.loadInstructions feed).survey.accepted requests |>.filter (·.fault?.isNone)).getLast? <;> rfl

theorem edges_performAll_eq_numEdges {requests : List (Request ε)}
    (h : (survey.accepted requests).getLast?.elim (survey.tally.edges = survey.graph.numEdges) (·.fault? = none)) :
    (survey.performAll requests).tally.edges = (survey.performAll requests).graph.numEdges := by
  -- If no request is accepted, the count is right from the start. Otherwise the last of them has made it right.
  induction requests generalizing survey with
  | nil => exact h
  | cons request requests ih =>
    rw [performAll_cons]
    apply ih
    cases request with
    | symbols feed =>
      obtain ⟨hgraph, hedges⟩ := loadSymbols_keeps survey feed
      rw [perform, hgraph, hedges]
      exact h
    | instructions feed =>
      rcases loadInstructions_cases survey feed with ⟨hphase, hload⟩ | ⟨hphase, hfault, _⟩
      · rw [accepted_of_phase_eq hphase] at h
        rw [perform, hload]
        exact h
      · rw [accepted_of_phase_ne hphase, List.getLast?_cons] at h
        rw [perform]
        cases hlast : ((survey.loadInstructions feed).survey.accepted requests).getLast? with
        | some last => simpa [hlast] using h
        | none =>
          simp only [hlast, Option.getD_none, Option.elim_some, hfault, Option.map_eq_none_iff] at h
          simp [loadInstructions_tally hphase, h]

/--
What the tally after some requests says about the records that they have read, and what the next request for
instructions reports.
-/
structure Accounted (requests : List (Request ε)) : Prop where
  instructions_eq : (performAll {} requests).tally.instructions = (consumedAll {} requests).length
  callSites_eq : (performAll {} requests).tally.callSites = (consumedAll {} requests).countP (·.isTransfer)
  unresolved_eq : (performAll {} requests).tally.unresolved
    = (consumedAll {} requests).countP (performAll {} requests).table.isUnresolved
  numEdges_add_unresolved_le : (performAll {} requests).graph.numEdges + (performAll {} requests).tally.unresolved
    ≤ (performAll {} requests).tally.callSites
  numEdges_eq_zero_iff : (performAll {} requests).graph.numEdges = 0
    ↔ (performAll {} requests).tally.callSites = (performAll {} requests).tally.unresolved
  edges_eq : (performAll {} requests).tally.edges
    = (((accepted {} requests).filter (·.fault?.isNone)).getLast?.map (·.survey.graph.numEdges)).getD 0
  edges_eq_numEdges : ∀ last, (accepted {} requests).getLast? = some last → last.fault? = none →
    (performAll {} requests).tally.edges = (performAll {} requests).graph.numEdges
  symbols_eq_size : SymbolsCompleted requests →
    (performAll {} requests).tally.symbols = (performAll {} requests).table.size
  symbols_eq_zero : ¬ SymbolsCompleted requests → (performAll {} requests).tally.symbols = 0
  notices_eq : ∀ feed : Feed ε Instruction, ¬ ((performAll {} requests).loadInstructions feed).IsRefused →
    ((performAll {} requests).loadInstructions feed).notices
      = reportOn (performAll {} requests).table feed ((performAll {} requests).loadInstructions feed).survey.tally
  notices_eq_nil : ∀ feed : Feed ε Instruction, ((performAll {} requests).loadInstructions feed).IsRefused →
    ((performAll {} requests).loadInstructions feed).notices = []

theorem accounted_of_history (requests : List (Request ε)) : Accounted requests := by
  have hcounts := counts_empty.performAll requests
  rw [List.nil_append] at hcounts
  refine ⟨hcounts.instructions_eq, hcounts.callSites_eq, hcounts.unresolved_eq, hcounts.numEdges_add_unresolved_le,
    hcounts.numEdges_eq_zero_iff, edges_performAll {} requests, ?_, ?_, ?_, ?_, ?_⟩
  · intro last hlast hfault
    apply edges_performAll_eq_numEdges
    simp [hlast, hfault]
  · intro hcompleted
    rw [hcounts.symbols_eq, if_neg (symbolsCompleted_iff.mp hcompleted)]
  · intro hcompleted
    rw [symbolsCompleted_iff, ne_eq, not_not] at hcompleted
    rw [hcounts.symbols_eq, if_pos hcompleted]
  · intro feed haccepted
    rw [isRefused_loadInstructions_iff] at haccepted
    apply loadInstructions_notices haccepted
  · intro feed hrefused
    have htrace : Request.LeavesNoTrace requests (.instructions feed) := leavesNoTrace_of_isRefused hrefused
    apply htrace.notices_eq

theorem accounted_of_history_retried :
    SymbolsCompleted retriedRequests
      ∧ (performAll {} retriedRequests).tally.symbols = (performAll {} retriedRequests).table.size
      ∧ (performAll {} retriedRequests).graph.numEdges = 1 ∧ (performAll {} retriedRequests).tally.edges = 0 := by
  have hcompleted : SymbolsCompleted retriedRequests := symbolsCompleted_iff.mpr (by decide +kernel)
  refine ⟨hcompleted, (accounted_of_history retriedRequests).symbols_eq_size hcompleted, ?_, ?_⟩
  · decide +kernel
  · decide +kernel

end Survey

end CallScope
