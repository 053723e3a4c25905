import CallScope.Proofs.SurveyOrder

/-!
This module contains what a survey keeps of a feed that fails, which is all that was read of it, and what it makes of
feeds that come in several chunks, which is the same as of one feed with all of their items.
-/

namespace CallScope

namespace SymbolTable

variable {table : SymbolTable}

theorem recordAll_append {before : List SymbolFact} (h : (table.recordAll before).2 = none) (after : List SymbolFact) :
    table.recordAll (before ++ after) = (table.recordAll before).1.recordAll after := by
  induction before generalizing table with
  | nil => rfl
  | cons fact before ih =>
    simp only [List.cons_append, recordAll] at h ⊢
    cases hrecord : table.record fact with
    | error fault => simp [hrecord] at h
    | ok next =>
      simp only [hrecord] at h ⊢
      apply ih h

theorem recordAll_duplicate {facts : List SymbolFact} (h : (table.entryPoints facts).length = 1) (second : Address)
    (later : List SymbolFact) :
    ((table.recordAll (facts ++ .entry second :: later)).1 = (table.recordAll facts).1)
      ∧ (table.recordAll (facts ++ .entry second :: later)).2.isSome = true := by
  obtain ⟨hfault, hpoint⟩ := recordAll_entries table facts
  obtain ⟨first, hfirst⟩ := List.length_eq_one_iff.mp h
  rw [hfirst] at hfault hpoint
  rw [recordAll_append hfault]
  simp [recordAll, record, recordEntryPoint, hpoint]

theorem recordAll_snd_of_append {before after : List SymbolFact}
    (h : (table.entryPoints (before ++ after)).length ≤ 1) : (table.recordAll before).2 = none := by
  rw [recordAll_snd_eq_none_iff]
  simp only [entryPoints, List.filterMap_append, List.length_append] at h ⊢
  omega

theorem length_entryPoints_recordAll_le (table : SymbolTable) (before after : List SymbolFact) :
    ((table.recordAll before).1.entryPoints after).length ≤ (table.entryPoints (before ++ after)).length := by
  have hhead : (table.entryPoints before).head?.toList.length ≤ (table.entryPoints before).length := by
    cases table.entryPoints before <;> simp
  rw [entryPoints, (recordAll_entries table before).2]
  simp only [entryPoints, List.filterMap_append, List.length_append] at hhead ⊢
  omega

end SymbolTable

namespace Survey

variable {ε : Type} {survey : Survey}

theorem loadSymbols_failed (survey : Survey) (facts : List SymbolFact) (failure : ε) :
    (survey.loadSymbols ⟨facts, some failure⟩).survey
      = if survey.phase = .symbols then { survey with table := (survey.table.recordAll facts).1 } else survey := by
  rcases loadSymbols_cases survey ⟨facts, some failure⟩ with ⟨hphase, _, hload⟩ | ⟨hphase, _, _, hload⟩ | ⟨_, hfault, _⟩
  · simp [hload, hphase]
  · simp [hload, hphase]
  · simp [symbolsFault?] at hfault

theorem loadSymbols_resumed {facts : List SymbolFact} (rest : Feed ε SymbolFact)
    (h : (survey.table.entryPoints (facts ++ rest.items)).length ≤ 1) (failure : ε) :
    (survey.loadSymbols ⟨facts, some failure⟩).survey.loadSymbols rest
      = survey.loadSymbols ⟨facts ++ rest.items, rest.failure?⟩ := by
  rw [loadSymbols_failed]
  split
  · next hphase =>
    unfold loadSymbols
    simp only [hphase, SymbolTable.recordAll_append (SymbolTable.recordAll_snd_of_append h)]
  · next hphase =>
    -- Both feeds are refused.
    have hrefusal := mt Phase.symbolsRefusal?_eq_none_iff.mp hphase
    obtain ⟨fault, hfault⟩ := Option.ne_none_iff_exists'.mp hrefusal
    simp only [loadSymbols_of_refusal hfault]

theorem length_entryPoints_loadSymbols_le (survey : Survey) (facts rest : List SymbolFact) (failure : ε) :
    ((survey.loadSymbols ⟨facts, some failure⟩).survey.table.entryPoints rest).length
      ≤ (survey.table.entryPoints (facts ++ rest)).length := by
  rw [loadSymbols_failed]
  split
  · apply SymbolTable.length_entryPoints_recordAll_le
  · simp [SymbolTable.entryPoints]

/--
Requests to load some symbols from feeds that all fail.
-/
def interrupted (chunks : List (List SymbolFact × ε)) : List (Request ε) :=
  chunks.map fun chunk => .symbols ⟨chunk.1, some chunk.2⟩

theorem loadSymbols_interrupted (chunks : List (List SymbolFact × ε)) {last : Feed ε SymbolFact}
    (h : (survey.table.entryPoints (chunks.flatMap (·.1) ++ last.items)).length ≤ 1) :
    (survey.performAll (interrupted chunks)).loadSymbols last
      = survey.loadSymbols ⟨chunks.flatMap (·.1) ++ last.items, last.failure?⟩ := by
  induction chunks generalizing survey with
  | nil => rfl
  | cons chunk chunks ih =>
    rw [List.flatMap_cons, List.append_assoc] at h ⊢
    rw [interrupted, List.map_cons, performAll_cons, ← interrupted, perform, ih]
    · apply loadSymbols_resumed ⟨_, _⟩ h
    · apply Nat.le_trans _ h
      apply length_entryPoints_loadSymbols_le

theorem loadInstructions_resumed (h : survey.phase ≠ .symbols) (chunk : Feed ε Instruction) (rest : List Instruction) :
    ((survey.loadInstructions chunk).survey.loadInstructions (⟨rest, none⟩ : Feed ε Instruction)).survey
      = (survey.loadInstructions (⟨chunk.items ++ rest, none⟩ : Feed ε Instruction)).survey := by
  have hnext : (survey.loadInstructions chunk).survey.phase ≠ .symbols := by
    simp [phase_loadInstructions, h]
  rw [loadInstructions_completed hnext, loadInstructions_completed h]
  obtain ⟨items, failure?⟩ := chunk
  cases failure? with
  | some failure =>
    rw [loadInstructions_failed h]
    simp only [trace_eq, counted_append]
    rfl
  | none =>
    -- The chunk has counted its calls, and the rest counts all of them again.
    rw [loadInstructions_completed h]
    simp only [trace_eq, counted_append]
    rfl

theorem loadInstructions_chunks (h : survey.phase ≠ .symbols) (chunks : List (Feed ε Instruction))
    (last : List Instruction) :
    ((survey.performAll (chunks.map .instructions)).loadInstructions (⟨last, none⟩ : Feed ε Instruction)).survey
      = (survey.loadInstructions (⟨chunks.flatMap (·.items) ++ last, none⟩ : Feed ε Instruction)).survey := by
  induction chunks generalizing survey with
  | nil => rfl
  | cons chunk chunks ih =>
    rw [List.map_cons, performAll_cons, perform, List.flatMap_cons, List.append_assoc, ih, loadInstructions_resumed h]
    simp [phase_loadInstructions, h]

/--
A survey that has taken in some facts, all else being as before.
-/
def withFacts (survey : Survey) (facts : List SymbolFact) : Survey :=
  { survey with table := survey.table.serveAll (facts.map SymbolFact.request) }

/--
What a survey keeps of a feed of symbols that fails: all facts that were read, and of a feed with a second entry point
all facts before it.
-/
structure KeepsFacts (ε : Type) (survey : Survey) : Prop where
  interrupted : ∀ (facts : List SymbolFact) (failure : ε), (survey.table.entryPoints facts).length ≤ 1 →
    (survey.perform (.symbols ⟨facts, some failure⟩)).survey = survey.withFacts facts
  duplicate : ∀ (facts later : List SymbolFact) (second : Address) (failure? : Option ε),
    (survey.table.entryPoints facts).length = 1 →
      (survey.perform (.symbols ⟨facts ++ .entry second :: later, failure?⟩)).survey = survey.withFacts facts

theorem keepsFacts (h : survey.phase = .symbols) : survey.KeepsFacts ε where
  interrupted facts failure hentries := by
    rw [← SymbolTable.recordAll_snd_eq_none_iff] at hentries
    rw [perform, loadSymbols_failed, if_pos h, SymbolTable.recordAll_eq_serveAll hentries]
    rfl
  duplicate facts later second failure? hentries := by
    obtain ⟨htable, hfault⟩ := SymbolTable.recordAll_duplicate hentries second later
    have hnone := SymbolTable.recordAll_snd_eq_none_iff.mpr (Nat.le_of_eq hentries)
    rw [SymbolTable.recordAll_eq_serveAll hnone] at htable
    rcases loadSymbols_cases survey ⟨facts ++ .entry second :: later, failure?⟩ with
      ⟨hphase, _⟩ | ⟨_, _, _, hload⟩ | ⟨_, hsound, _⟩
    · exact absurd h hphase
    · rw [perform, hload, withFacts, htable]
    · rw [symbolsFault?, Option.or_eq_none_iff, Option.map_eq_none_iff] at hsound
      simp [hsound.1] at hfault

/--
What a feed of instructions adds to a survey, whether it fails or not: each record that was read is counted, and the
calls among them are in the graph. The calls themselves are counted at the end of a feed only, when there are `edges`.
-/
structure Adds (survey : Survey) (instructions : List Instruction) (edges : Nat) (after : Survey) : Prop where
  table_eq : after.table = survey.table
  phase_eq : after.phase = .instructions
  mem_graph_iff : ∀ edge, edge ∈ after.graph ↔ edge ∈ survey.graph
    ∨ ∃ site ∈ instructions, site.isTransfer = true
      ∧ survey.table.BelongsTo site.source edge.caller ∧ survey.table.BelongsTo site.target edge.callee
  tally_eq : after.tally = { survey.tally with
    instructions := survey.tally.instructions + instructions.length
    callSites := survey.tally.callSites + instructions.countP (·.isTransfer)
    unresolved := survey.tally.unresolved + instructions.countP survey.table.isUnresolved
    edges := edges }

theorem adds_loadInstructions (h : survey.phase ≠ .symbols) (feed : Feed ε Instruction) :
    survey.Adds feed.items
      (feed.failure?.elim (survey.loadInstructions feed).survey.graph.numEdges fun _ => survey.tally.edges)
      (survey.loadInstructions feed).survey := by
  rcases loadInstructions_cases survey feed with ⟨hphase, _⟩ | ⟨_, _, htable, hphase, hgraph⟩
  · exact absurd hphase h
  · refine ⟨htable, hphase, ?_, loadInstructions_tally h feed⟩
    intro edge
    rw [hgraph, mem_trace_graph_iff]
    simp only [SymbolTable.edge?_eq_some_iff]

theorem performAll_chunks (survey : Survey) :
    (survey.phase = .symbols → survey.KeepsFacts ε)
      ∧ (survey.phase ≠ .symbols → ∀ feed : Feed ε Instruction,
          survey.Adds feed.items
            (feed.failure?.elim (survey.perform (.instructions feed)).survey.graph.numEdges
              fun _ => survey.tally.edges)
            (survey.perform (.instructions feed)).survey)
      ∧ (∀ (chunks : List (List SymbolFact × ε)) (last : Feed ε SymbolFact),
          (survey.table.entryPoints (chunks.flatMap (·.1) ++ last.items)).length ≤ 1 →
            survey.performAll (interrupted chunks ++ [.symbols last])
              = survey.performAll [.symbols ⟨chunks.flatMap (·.1) ++ last.items, last.failure?⟩])
      ∧ ∀ (chunks : List (Feed ε Instruction)) (last : Feed ε Instruction),
          survey.phase ≠ .symbols → last.failure? = none →
            survey.performAll (chunks.map .instructions ++ [.instructions last])
              = survey.performAll [.instructions ⟨chunks.flatMap (·.items) ++ last.items, last.failure?⟩] := by
  refine ⟨keepsFacts, adds_loadInstructions, ?_, ?_⟩
  · intro chunks last hentries
    rw [performAll_concat, perform, loadSymbols_interrupted chunks hentries]
    rfl
  · rintro chunks ⟨items, _⟩ hphase rfl
    rw [performAll_concat, perform, loadInstructions_chunks hphase]
    rfl

def resumed : Survey :=
  -- The address of the second chunk comes again in the last one.
  performAll {} (interrupted [([.entry 0x1000, .symbol 0x1020 "helper"], "broken"), ([.symbol 0x1000 "main"], "broken")]
    ++ [.symbols ⟨[.symbol 0x1000 "start"], none⟩])

theorem performAll_chunks_resumed :
    resumed = performAll {} [.symbols (⟨[.entry 0x1000, .symbol 0x1020 "helper", .symbol 0x1000 "main",
        .symbol 0x1000 "start"], none⟩ : Feed String SymbolFact)]
      ∧ resumed.table.nameAt? 0x1000 = some "main"
      ∧ resumed.performAll [.instructions ⟨[⟨0x1004, 0x1020, true⟩], some "broken"⟩,
          .instructions ⟨[⟨0x1008, 0x10, true⟩], none⟩]
        = resumed.performAll [.instructions (⟨[⟨0x1004, 0x1020, true⟩, ⟨0x1008, 0x10, true⟩], none⟩
          : Feed String Instruction)]
      ∧ (perform {} (.symbols ⟨[.entry 0x1000, .symbol 0x1020 "helper", .entry 0x1020], some "broken"⟩)).survey
        = withFacts {} [.entry 0x1000, .symbol 0x1020 "helper"]
      ∧ resumed.Adds [⟨0x1004, 0x1020, true⟩] 0
        (resumed.perform (.instructions ⟨[⟨0x1004, 0x1020, true⟩], some "broken"⟩)).survey := by
  obtain ⟨_, hadds, _, hinstructions⟩ := performAll_chunks (ε := String) resumed
  obtain ⟨hkeeps, _, hsymbols, _⟩ := performAll_chunks (ε := String) {}
  refine ⟨?_, by decide +kernel, ?_, ?_, ?_⟩
  · apply hsymbols [(_, _), (_, _)] ⟨_, none⟩
    decide
  · apply hinstructions [⟨_, some "broken"⟩] ⟨_, none⟩
    · decide +kernel
    · rfl
  · apply (hkeeps rfl).duplicate [_, _]
    decide
  · apply hadds (by decide +kernel) ⟨_, some "broken"⟩

end Survey

end CallScope
