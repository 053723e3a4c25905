import CallScope.Proofs.CallGraph
import CallScope.Proofs.SymbolTable
import CallScope.Survey.Indexed

/-!
This module contains what becomes of the entry points among recorded facts, what the loop over instructions comes to,
and what the two parts of a survey do to it, one case for each way in which a part can end.
-/

namespace CallScope

def SymbolFact.entry? : SymbolFact → Option Address
  | .entry address => some address
  | .symbol _ _ => none

namespace SymbolTable

theorem insert_entryPoint? (table : SymbolTable) (address : Address) (name : String) :
    (table.insert address name).entryPoint? = table.entryPoint? := by
  unfold insert
  split
  · rfl
  · rfl

/--
The entry points that a table would have to hold after some facts: its own and those in the facts.
-/
def entryPoints (table : SymbolTable) (facts : List SymbolFact) : List Address :=
  table.entryPoint?.toList ++ facts.filterMap SymbolFact.entry?

/--
The first two of several entry points make a fault.
-/
def entryFault? : List Address → Option EntryFault
  | first :: second :: _ => some (.duplicate second first)
  | _ => none

theorem entryFault?_eq_none_iff {entries : List Address} : entryFault? entries = none ↔ entries.length ≤ 1 := by
  match entries with
  | [] => simp [entryFault?]
  | [_] => simp [entryFault?]
  | _ :: _ :: _ => simp [entryFault?]

theorem recordAll_entries (table : SymbolTable) (facts : List SymbolFact) :
    (table.recordAll facts).2 = entryFault? (table.entryPoints facts)
      ∧ (table.recordAll facts).1.entryPoint? = (table.entryPoints facts).head? := by
  -- A recorded entry point moves from the facts into the table, so the entry points stay the same.
  induction facts generalizing table with
  | nil =>
    unfold recordAll entryPoints
    cases table.entryPoint? with
    | none => exact ⟨rfl, rfl⟩
    | some recorded => exact ⟨rfl, rfl⟩
  | cons fact facts ih =>
    cases fact with
    | symbol address name =>
      have hpoints : table.entryPoints (.symbol address name :: facts)
          = (table.insert address name).entryPoints facts := by
        unfold entryPoints
        rw [insert_entryPoint?]
        rfl
      rw [hpoints]
      exact ih (table.insert address name)
    | entry address =>
      cases hrecorded : table.entryPoint? with
      | none =>
        have hpoints : table.entryPoints (.entry address :: facts)
            = { table with entryPoint? := some address }.entryPoints facts := by
          unfold entryPoints
          rw [hrecorded]
          rfl
        rw [hpoints, recordAll, record, recordEntryPoint, hrecorded]
        exact ih { table with entryPoint? := some address }
      | some recorded =>
        have hpoints : table.entryPoints (.entry address :: facts)
            = recorded :: address :: facts.filterMap SymbolFact.entry? := by
          unfold entryPoints
          rw [hrecorded]
          rfl
        rw [hpoints, recordAll, record, recordEntryPoint, hrecorded]
        exact ⟨rfl, hrecorded⟩

variable {table : SymbolTable} {facts : List SymbolFact}

theorem recordAll_snd_eq_none_iff : (table.recordAll facts).2 = none ↔ (table.entryPoints facts).length ≤ 1 := by
  rw [(recordAll_entries table facts).1, entryFault?_eq_none_iff]

theorem recordAll_eq_serveAll (h : (table.recordAll facts).2 = none) :
    (table.recordAll facts).1 = table.serveAll (facts.map SymbolFact.request) := by
  induction facts generalizing table with
  | nil => rfl
  | cons fact facts ih =>
    rw [List.map_cons, serveAll, List.foldl_cons, ← serveAll]
    cases fact with
    | symbol address name => exact ih h
    | entry address =>
      simp only [recordAll, record, SymbolFact.request, serve] at h ⊢
      cases hrecord : table.recordEntryPoint address with
      | error fault => simp [hrecord] at h
      | ok next =>
        simp only [hrecord] at h ⊢
        exact ih h

theorem edge?_eq_some_iff {instruction : Instruction} {edge : Edge} :
    table.edge? instruction = some edge
      ↔ table.BelongsTo instruction.source edge.caller ∧ table.BelongsTo instruction.target edge.callee := by
  rw [← nameAt?_eq_some_iff, ← nameAt?_eq_some_iff]
  unfold edge?
  cases table.nameAt? instruction.source with
  | none => simp
  | some caller =>
    cases table.nameAt? instruction.target with
    | none => simp
    | some callee =>
      cases edge
      simp

def isUnresolved (table : SymbolTable) (instruction : Instruction) : Bool :=
  instruction.isTransfer && (table.isBelow instruction.source || table.isBelow instruction.target)

theorem edge?_isNone (table : SymbolTable) (instruction : Instruction) :
    (table.edge? instruction).isNone = (table.isBelow instruction.source || table.isBelow instruction.target) := by
  rw [Bool.eq_iff_iff, Bool.or_eq_true, isBelow_iff, isBelow_iff]
  unfold edge?
  cases table.nameAt? instruction.source with
  | none => simp
  | some caller => cases table.nameAt? instruction.target <;> simp

/--
The calls that a table finds in some instructions, one for each transfer that it can resolve.
-/
def callsOf (table : SymbolTable) (instructions : List Instruction) : List Edge :=
  (instructions.filter (·.isTransfer)).filterMap table.edge?

theorem mem_callsOf_iff {instructions : List Instruction} {edge : Edge} :
    edge ∈ table.callsOf instructions
      ↔ ∃ site ∈ instructions, site.isTransfer = true ∧ table.edge? site = some edge := by
  simp [callsOf, and_assoc]

theorem callsOf_append (table : SymbolTable) (before after : List Instruction) :
    table.callsOf (before ++ after) = table.callsOf before ++ table.callsOf after := by
  rw [callsOf, List.filter_append, List.filterMap_append]
  rfl

/--
What is reported about some instructions, one notice for each transfer that the table cannot resolve.
-/
def noticesOf (table : SymbolTable) (instructions : List Instruction) : List Notice :=
  (instructions.filter table.isUnresolved).map fun site => .unresolved site.source site.target

theorem noticesOf_append (table : SymbolTable) (before after : List Instruction) :
    table.noticesOf (before ++ after) = table.noticesOf before ++ table.noticesOf after := by
  rw [noticesOf, List.filter_append, List.map_append]
  rfl

end SymbolTable

namespace Survey

variable {ε : Type} {survey : Survey}

theorem foldl_look {σ : Type} (step : σ → Instruction → σ × Option Notice) (start : σ) (notices : List Notice)
    (instructions : List Instruction) :
    instructions.foldl (look step) (start, notices)
      = ((instructions.foldl (look step) (start, [])).1,
          (instructions.foldl (look step) (start, [])).2 ++ notices) := by
  induction instructions generalizing start notices with
  | nil => rfl
  | cons instruction instructions ih =>
    rw [List.foldl_cons, List.foldl_cons, look, look, ih _ (_ ++ notices), ih _ (_ ++ [])]
    simp only [List.append_assoc, List.nil_append]

theorem traceBy_cons {σ : Type} (step : σ → Instruction → σ × Option Notice) (start : σ) (instruction : Instruction)
    (instructions : List Instruction) :
    traceBy step start (instruction :: instructions)
      = ((traceBy step (step start instruction).1 instructions).1,
          (step start instruction).2.toList ++ (traceBy step (step start instruction).1 instructions).2) := by
  have hreverse : (step start instruction).2.toList.reverse = (step start instruction).2.toList := by
    cases (step start instruction).2 with
    | none => rfl
    | some notice => rfl
  rw [traceBy, List.foldl_cons, look, foldl_look]
  simp only [List.append_nil, List.reverse_append, hreverse]
  rfl

/--
A survey with some instructions counted all at once, and with the calls among them.
-/
def counted (survey : Survey) (instructions : List Instruction) : Survey :=
  { survey with
    graph := survey.graph.insertMany (survey.table.callsOf instructions)
    tally := { survey.tally with
      instructions := survey.tally.instructions + instructions.length
      callSites := survey.tally.callSites + instructions.countP (·.isTransfer)
      unresolved := survey.tally.unresolved + instructions.countP survey.table.isUnresolved } }

theorem counted_append (survey : Survey) (before after : List Instruction) :
    survey.counted (before ++ after) = (survey.counted before).counted after := by
  simp only [counted, SymbolTable.callsOf_append, CallGraph.insertMany, List.foldl_append, List.length_append,
    List.countP_append, Nat.add_assoc]

theorem step_eq (survey : Survey) (instruction : Instruction) :
    (survey.step instruction).1 = survey.counted [instruction]
      ∧ (survey.step instruction).2.toList = survey.table.noticesOf [instruction] := by
  have hnone := survey.table.edge?_isNone instruction
  unfold step counted SymbolTable.noticesOf SymbolTable.callsOf SymbolTable.isUnresolved
  cases htransfer : instruction.isTransfer with
  | false => simp [htransfer, CallGraph.insertMany]
  | true =>
    cases hedge : survey.table.edge? instruction with
    | some edge =>
      rw [hedge, Option.isNone_some] at hnone
      simp [htransfer, ← hnone, hedge, CallGraph.insertMany]
    | none =>
      rw [hedge, Option.isNone_none] at hnone
      simp [htransfer, ← hnone, hedge, CallGraph.insertMany]

/--
The loop over the instructions comes to counting them all at once.
-/
theorem trace_eq (survey : Survey) (instructions : List Instruction) :
    survey.trace instructions = (survey.counted instructions, survey.table.noticesOf instructions) := by
  induction instructions generalizing survey with
  | nil => rfl
  | cons instruction instructions ih =>
    obtain ⟨hnext, hnotices⟩ := step_eq survey instruction
    have hcounted := counted_append survey [instruction] instructions
    have hreported := survey.table.noticesOf_append [instruction] instructions
    rw [List.singleton_append] at hcounted hreported
    rw [trace, traceBy_cons, hnext, hnotices, ← trace, ih, hcounted, hreported]
    rfl

theorem mem_counted_graph_iff {instructions : List Instruction} {edge : Edge} :
    edge ∈ (survey.counted instructions).graph
      ↔ edge ∈ survey.graph
        ∨ ∃ site ∈ instructions, site.isTransfer = true ∧ survey.table.edge? site = some edge := by
  show edge ∈ survey.graph.insertMany _ ↔ _
  rw [CallGraph.mem_insertMany_iff, SymbolTable.mem_callsOf_iff, or_comm]

theorem mem_trace_graph_iff {instructions : List Instruction} {edge : Edge} :
    edge ∈ (survey.trace instructions).1.graph
      ↔ edge ∈ survey.graph
        ∨ ∃ site ∈ instructions, site.isTransfer = true ∧ survey.table.edge? site = some edge := by
  rw [trace_eq]
  exact mem_counted_graph_iff

/--
What is wrong with a feed of symbols: a second entry point, or else the failure of the feed.
-/
def symbolsFault? (survey : Survey) (feed : Feed ε SymbolFact) : Option (SurveyFault ε) :=
  ((survey.table.recordAll feed.items).2.map .entry).or (feed.failure?.map .feed)

def withSymbols (survey : Survey) (table : SymbolTable) : Survey :=
  { survey with table, phase := .ready, tally := { survey.tally with symbols := table.size } }

@[simp]
theorem withSymbols_table (survey : Survey) (table : SymbolTable) : (survey.withSymbols table).table = table := by
  rfl

@[simp]
theorem withSymbols_graph (survey : Survey) (table : SymbolTable) :
    (survey.withSymbols table).graph = survey.graph := by
  rfl

@[simp]
theorem withSymbols_phase (survey : Survey) (table : SymbolTable) : (survey.withSymbols table).phase = .ready := by
  rfl

theorem loadSymbols_cases (survey : Survey) (feed : Feed ε SymbolFact) :
    (survey.phase ≠ .symbols ∧ ∃ fault, survey.loadSymbols feed = { survey, fault? := some (.order fault) })
      ∨ (survey.phase = .symbols ∧ ∃ fault, survey.symbolsFault? feed = some fault
          ∧ survey.loadSymbols feed
            = { survey := { survey with table := (survey.table.recordAll feed.items).1 }, fault? := some fault })
      ∨ (survey.phase = .symbols ∧ survey.symbolsFault? feed = none
          ∧ survey.loadSymbols feed
            = { survey := survey.withSymbols (survey.table.recordAll feed.items).1
                notices := [.loaded (survey.table.recordAll feed.items).1.size] }) := by
  unfold loadSymbols symbolsFault? withSymbols
  cases hphase : survey.phase with
  | instructions => exact .inl ⟨by simp, .instructionsLoaded, rfl⟩
  | ready => exact .inl ⟨by simp, .symbolsLoaded, rfl⟩
  | symbols =>
    right
    generalize survey.table.recordAll feed.items = recorded
    obtain ⟨table, fault?⟩ := recorded
    cases fault? with
    | some fault => exact .inl ⟨rfl, .entry fault, rfl, rfl⟩
    | none =>
      cases hfailure : feed.failure? with
      | some failure => exact .inl ⟨rfl, .feed failure, rfl, rfl⟩
      | none => exact .inr ⟨rfl, rfl, rfl⟩

theorem loadInstructions_cases (survey : Survey) (feed : Feed ε Instruction) :
    (survey.phase = .symbols ∧ survey.loadInstructions feed = { survey, fault? := some (.order .symbolsMissing) })
      ∨ (survey.phase ≠ .symbols
          ∧ (survey.loadInstructions feed).fault? = feed.failure?.map .feed
          ∧ (survey.loadInstructions feed).survey.table = survey.table
          ∧ (survey.loadInstructions feed).survey.phase = .instructions
          ∧ (survey.loadInstructions feed).survey.graph = (survey.trace feed.items).1.graph) := by
  unfold loadInstructions
  cases hphase : survey.phase with
  | symbols => exact .inl ⟨rfl, rfl⟩
  | _ =>
    refine .inr ⟨by simp, ?_⟩
    simp only [trace_eq]
    cases feed.failure? with
    | none => exact ⟨rfl, rfl, rfl, rfl⟩
    | some failure => exact ⟨rfl, rfl, rfl, rfl⟩

theorem loadInstructions_result (h : survey.phase ≠ .symbols) (feed : Feed ε Instruction) :
    (survey.loadInstructions feed).result
      = feed.failure?.elim (.ok (survey.loadInstructions feed).survey) fun failure => .error (.feed failure) := by
  rcases loadInstructions_cases survey feed with ⟨hphase, _⟩ | ⟨_, hfault, _⟩
  · exact absurd hphase h
  · unfold Progress.result
    rw [hfault]
    cases feed.failure? with
    | none => rfl
    | some failure => rfl

def opened (survey : Survey) : Survey :=
  { survey with phase := .instructions }

def countEdges (survey : Survey) : Survey :=
  { survey with tally := { survey.tally with edges := survey.graph.numEdges } }

theorem loadInstructions_failed (h : survey.phase ≠ .symbols) (instructions : List Instruction) (failure : ε) :
    survey.loadInstructions ⟨instructions, some failure⟩
      = { survey := (survey.opened.trace instructions).1
          notices := (survey.opened.trace instructions).2
          fault? := some (.feed failure) } := by
  unfold loadInstructions
  cases hphase : survey.phase with
  | symbols => exact absurd hphase h
  | ready | instructions => rfl

theorem loadInstructions_completed (h : survey.phase ≠ .symbols) (instructions : List Instruction) :
    survey.loadInstructions (⟨instructions, none⟩ : Feed ε Instruction)
      = { survey := (survey.opened.trace instructions).1.countEdges
          notices := (survey.opened.trace instructions).2
            ++ [.resolved
                ((survey.opened.trace instructions).1.tally.callSites
                  - (survey.opened.trace instructions).1.tally.unresolved)
                (survey.opened.trace instructions).1.graph.numEdges
                (survey.opened.trace instructions).1.tally.unresolved] } := by
  unfold loadInstructions
  cases hphase : survey.phase with
  | symbols => exact absurd hphase h
  | ready | instructions => rfl

theorem loadInstructions_tally (h : survey.phase ≠ .symbols) (feed : Feed ε Instruction) :
    (survey.loadInstructions feed).survey.tally
      = { survey.tally with
          instructions := survey.tally.instructions + feed.items.length
          callSites := survey.tally.callSites + feed.items.countP (·.isTransfer)
          unresolved := survey.tally.unresolved + feed.items.countP survey.table.isUnresolved
          edges := feed.failure?.elim (survey.loadInstructions feed).survey.graph.numEdges
            fun _ => survey.tally.edges } := by
  obtain ⟨items, failure?⟩ := feed
  cases failure? with
  | some failure =>
    rw [loadInstructions_failed h, trace_eq]
    rfl
  | none =>
    rw [loadInstructions_completed h, trace_eq]
    rfl

end Survey

end CallScope
