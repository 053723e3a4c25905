import CallScope.Console.Run
import CallScope.Proofs.SurveyTally
import CallScope.Proofs.SymbolRequests
import CallScope.Service.Dispatch

/-!
This module contains the proof that the order of records does not matter to a survey. Two orders of the same records
give the same addresses and counts, also where an address has several names. If no address comes twice, nothing tells
the two surveys apart.
-/

namespace CallScope

namespace SymbolFact

/--
The address that a fact brings into a store. The undefined one is never stored.
-/
def address? : SymbolFact → Option Address
  | .entry _ => none
  | .symbol address _ => if address = Address.undefined then none else some address

theorem address?_eq_some_iff {fact : SymbolFact} {address : Address} :
    fact.address? = some address ↔ address ≠ 0 ∧ ∃ name, fact = .symbol address name := by
  cases fact with
  | entry _ => simp [address?]
  | symbol a name =>
    simp only [address?, Option.ite_none_left_eq_some, Option.some.injEq, symbol.injEq]
    constructor
    · rintro ⟨hdefined, rfl⟩
      exact ⟨hdefined, name, rfl, rfl⟩
    · rintro ⟨hdefined, _, rfl, _⟩
      exact ⟨hdefined, rfl⟩

theorem request_eq_insert_iff {fact : SymbolFact} {address : Address} {name : String} :
    fact.request = .insert address name ↔ fact = .symbol address name := by
  cases fact <;> simp [request]

end SymbolFact

namespace SymbolTable

variable {table : SymbolTable} {facts facts' : List SymbolFact} {address : Address} {name : String}

theorem mem_storedAddresses_iff :
    address ∈ storedAddresses (facts.map SymbolFact.request) ↔ address ∈ facts.filterMap SymbolFact.address? := by
  simp only [storedAddresses, Set.mem_ofPred_eq, List.mem_map, List.mem_filterMap, SymbolFact.address?_eq_some_iff,
    SymbolFact.request_eq_insert_iff]
  constructor
  · rintro ⟨hdefined, name, fact, hfact, rfl⟩
    exact ⟨_, hfact, hdefined, name, rfl⟩
  · rintro ⟨_, hfact, hdefined, name, rfl⟩
    exact ⟨hdefined, name, _, hfact, rfl⟩

theorem insert_of_not_mem (hkeeps : table.KeepsLast) (hdefined : address ≠ 0) (hnew : address ∉ table.names)
    (name : String) :
    table.insert address name
      = { table with names := table.names.insert address name, lastStored := some address } := by
  unfold insert
  rw [if_neg]
  rintro (hundefined | hlast)
  · exact hdefined hundefined
  · exact hnew (hkeeps address hlast)

theorem getElem?_names_serve (hkeeps : table.KeepsLast) {fact : SymbolFact}
    (hnew : ∀ a, fact.address? = some a → a ∉ table.names) :
    (table.serve fact.request).1.names[address]? = some name
      ↔ table.names[address]? = some name ∨ (address ≠ 0 ∧ fact = .symbol address name) := by
  cases fact with
  | entry a =>
    rcases serve_cases table (.recordEntryPoint a) with ⟨_, _, hrequest, _⟩ | ⟨_, hnames, _⟩
    · cases hrequest
    · rw [SymbolFact.request, hnames]
      simp
  | symbol a n =>
    show (table.insert a n).names[address]? = some name ↔ _
    by_cases hdefined : a = 0
    · rw [insert, if_pos (.inl hdefined)]
      subst hdefined
      constructor
      · exact .inl
      · rintro (h | ⟨hne, heq⟩)
        · exact h
        · cases heq
          exact absurd rfl hne
    · have hfresh := hnew a (SymbolFact.address?_eq_some_iff.mpr ⟨hdefined, n, rfl⟩)
      rw [insert_of_not_mem hkeeps hdefined hfresh, Std.ExtTreeMap.getElem?_insert]
      by_cases ha : a = address
      · subst ha
        simp [hdefined, Std.ExtTreeMap.getElem?_eq_none hfresh]
      · simp [ha]

theorem getElem?_names_serveAll (hkeeps : table.KeepsLast)
    (hdistinct : facts.Pairwise fun fact other =>
      ∀ a, fact.address? = some a → ∀ b, other.address? = some b → a ≠ b)
    (hnew : ∀ fact ∈ facts, ∀ a, fact.address? = some a → a ∉ table.names) :
    (table.serveAll (facts.map SymbolFact.request)).names[address]? = some name
      ↔ table.names[address]? = some name ∨ (address ≠ 0 ∧ .symbol address name ∈ facts) := by
  induction facts generalizing table with
  | nil => simp [serveAll]
  | cons fact facts ih =>
    obtain ⟨hfirst, hrest⟩ := List.pairwise_cons.mp hdistinct
    have hfresh := hnew fact List.mem_cons_self
    rw [List.map_cons, serveAll_cons, ih (keepsLast_serve hkeeps fact.request) hrest,
      getElem?_names_serve hkeeps hfresh, List.mem_cons, or_assoc, ← and_or_left, eq_comm (a := fact)]
    intro other hother a ha hmem
    rw [mem_names_serve hkeeps] at hmem
    rcases hmem with hmem | ⟨hdefined, n, hrequest⟩
    · exact hnew other (List.mem_cons_of_mem fact hother) a ha hmem
    · have haddress := SymbolFact.address?_eq_some_iff.mpr ⟨hdefined, n, SymbolFact.request_eq_insert_iff.mp hrequest⟩
      exact hfirst other hother a haddress a ha rfl

theorem recordAll_empty_snd (h : (facts.filterMap SymbolFact.entry?).length ≤ 1) : (recordAll {} facts).2 = none := by
  rw [(recordAll_entries {} facts).1, entryFault?_eq_none_iff]
  exact h

theorem mem_names_recordAll (h : (facts.filterMap SymbolFact.entry?).length ≤ 1) :
    address ∈ (recordAll {} facts).1.names ↔ address ∈ facts.filterMap SymbolFact.address? := by
  rw [recordAll_eq_serveAll (recordAll_empty_snd h), mem_names_serveAll keepsLast_empty, mem_storedAddresses_iff]
  simp

theorem getElem?_names_recordAll (h : (facts.filterMap SymbolFact.entry?).length ≤ 1)
    (hdistinct : (facts.filterMap SymbolFact.address?).Nodup) :
    (recordAll {} facts).1.names[address]? = some name ↔ address ≠ 0 ∧ .symbol address name ∈ facts := by
  rw [recordAll_eq_serveAll (recordAll_empty_snd h),
    getElem?_names_serveAll keepsLast_empty (List.pairwise_filterMap.mp hdistinct)]
  · simp
  · simp

theorem filterMap_entry?_perm (h : (facts.filterMap SymbolFact.entry?).length ≤ 1) (hperm : facts'.Perm facts) :
    facts'.filterMap SymbolFact.entry? = facts.filterMap SymbolFact.entry? := by
  have hentries := hperm.filterMap SymbolFact.entry?
  match hfacts : facts.filterMap SymbolFact.entry? with
  | [] => exact (hfacts ▸ hentries).eq_nil
  | [_] => exact (hfacts ▸ hentries).eq_singleton
  | _ :: _ :: _ => simp [hfacts] at h

theorem length_filterMap_entry?_perm (h : (facts.filterMap SymbolFact.entry?).length ≤ 1)
    (hperm : facts'.Perm facts) : (facts'.filterMap SymbolFact.entry?).length ≤ 1 := by
  rw [filterMap_entry?_perm h hperm]
  exact h

theorem entryPoint?_recordAll_perm (h : (facts.filterMap SymbolFact.entry?).length ≤ 1) (hperm : facts'.Perm facts) :
    (recordAll {} facts').1.entryPoint? = (recordAll {} facts).1.entryPoint? := by
  rw [(recordAll_entries {} facts').2, (recordAll_entries {} facts).2, entryPoints, entryPoints,
    filterMap_entry?_perm h hperm]

theorem mem_names_recordAll_perm (h : (facts.filterMap SymbolFact.entry?).length ≤ 1) (hperm : facts'.Perm facts)
    (address : Address) : address ∈ (recordAll {} facts').1.names ↔ address ∈ (recordAll {} facts).1.names := by
  have h' := length_filterMap_entry?_perm h hperm
  rw [mem_names_recordAll h', mem_names_recordAll h, (hperm.filterMap SymbolFact.address?).mem_iff]

theorem names_recordAll_perm (h : (facts.filterMap SymbolFact.entry?).length ≤ 1) (hperm : facts'.Perm facts)
    (hdistinct : (facts.filterMap SymbolFact.address?).Nodup) :
    (recordAll {} facts').1.names = (recordAll {} facts).1.names := by
  have h' := length_filterMap_entry?_perm h hperm
  have hdistinct' := (hperm.filterMap SymbolFact.address?).nodup_iff.mpr hdistinct
  apply Std.ExtTreeMap.ext_getElem?
  intro address
  apply Option.ext
  intro name
  rw [getElem?_names_recordAll h' hdistinct', getElem?_names_recordAll h hdistinct, hperm.mem_iff]

theorem size_congr {other : SymbolTable} (h : ∀ address, address ∈ table.names ↔ address ∈ other.names) :
    table.size = other.size := by
  rw [← ncard_names, ← ncard_names]
  simp only [h]

theorem isBelow_congr {other : SymbolTable} (h : ∀ address, address ∈ table.names ↔ address ∈ other.names)
    (address : Address) : table.isBelow address = other.isBelow address := by
  rw [Bool.eq_iff_iff, isBelow_iff, isBelow_iff, nameAt?_eq_none_iff, nameAt?_eq_none_iff]
  simp only [forall_mem_symbols_iff (p := fun start => address < start), h]

theorem isUnresolved_congr {other : SymbolTable} (h : ∀ address, address ∈ table.names ↔ address ∈ other.names) :
    table.isUnresolved = other.isUnresolved := by
  funext instruction
  rw [isUnresolved, isUnresolved, isBelow_congr h, isBelow_congr h]

end SymbolTable

namespace Survey

variable {ε : Type} {table : SymbolTable} {facts facts' : List SymbolFact}
variable {instructions instructions' : List Instruction}

/--
The survey of some instructions with a table of symbols.
-/
def surveyed (table : SymbolTable) (instructions : List Instruction) : Survey :=
  ((withSymbols {} table).opened.counted instructions).countEdges

theorem build_eq_ok (h : (facts.filterMap SymbolFact.entry?).length ≤ 1) (instructions : List Instruction) :
    build (⟨facts, none⟩ : Feed ε SymbolFact) ⟨instructions, none⟩
      = .ok (surveyed (SymbolTable.recordAll {} facts).1 instructions) := by
  have hfault : symbolsFault? {} (⟨facts, none⟩ : Feed ε SymbolFact) = none := by
    simp [symbolsFault?, SymbolTable.recordAll_empty_snd h]
  rcases loadSymbols_cases {} (⟨facts, none⟩ : Feed ε SymbolFact) with ⟨hphase, _⟩ | ⟨_, _, hsome, _⟩ | ⟨_, _, hload⟩
  · exact absurd rfl hphase
  · simp [hfault] at hsome
  · unfold build
    rw [hload]
    show (loadInstructions (withSymbols {} _) (⟨instructions, none⟩ : Feed ε Instruction)).result = _
    rw [loadInstructions_completed (by simp), trace_eq]
    rfl

theorem mem_surveyed_graph_iff {edge : Edge} :
    edge ∈ (surveyed table instructions).graph
      ↔ ∃ site ∈ instructions, site.isTransfer = true ∧ table.edge? site = some edge := by
  show edge ∈ ((withSymbols {} table).opened.counted instructions).graph ↔ _
  rw [mem_counted_graph_iff]
  show edge ∈ (∅ : CallGraph) ∨ _ ↔ _
  simp only [CallGraph.not_mem_empty, false_or]
  rfl

theorem surveyed_tally (table : SymbolTable) (instructions : List Instruction) :
    (surveyed table instructions).tally
      = { symbols := table.size
          instructions := instructions.length
          callSites := instructions.countP (·.isTransfer)
          unresolved := instructions.countP table.isUnresolved
          edges := (surveyed table instructions).graph.numEdges } := by
  simp [surveyed, countEdges, counted, withSymbols, opened]

theorem surveyed_perm (table : SymbolTable) (h : instructions'.Perm instructions) :
    surveyed table instructions' = surveyed table instructions := by
  have hgraph : (surveyed table instructions').graph = (surveyed table instructions).graph := by
    apply CallGraph.eq_of_mem_iff
    intro edge
    simp only [mem_surveyed_graph_iff, h.mem_iff]
  have htally : (surveyed table instructions').tally = (surveyed table instructions).tally := by
    rw [surveyed_tally, surveyed_tally, hgraph, h.length_eq, h.countP_eq, h.countP_eq]
  show Survey.mk table (surveyed table instructions').graph (surveyed table instructions').tally .instructions = _
  rw [hgraph, htally]
  rfl

/--
What two surveys have in common if they are made of the same records in any order.
-/
structure Concurs (a b : Survey) : Prop where
  entryPoint?_eq : a.table.entryPoint? = b.table.entryPoint?
  contains_eq : ∀ address, a.table.contains address = b.table.contains address
  symbols_eq : a.tally.symbols = b.tally.symbols
  instructions_eq : a.tally.instructions = b.tally.instructions
  callSites_eq : a.tally.callSites = b.tally.callSites
  unresolved_eq : a.tally.unresolved = b.tally.unresolved

/--
No question tells two surveys apart: their tables give the same replies, they have the same calls and counts, and every
tool and every command answers from both alike.
-/
structure Indistinguishable (a b : Survey) : Prop where
  reply_eq : ∀ request, (a.table.serve request).2 = (b.table.serve request).2
  summary_eq : a.table.summary = b.table.summary
  graph_eq : a.graph = b.graph
  tally_eq : a.tally = b.tally
  answer_eq : ∀ tool arguments, Service.answer tool a arguments = Service.answer tool b arguments
  print_eq : ∀ (request : Console.Request) (terminal : Console.Terminal) (json : Bool),
    (request.answer a).map (·.print terminal json) = (request.answer b).map (·.print terminal json)

theorem concurs_surveyed_perm (h : (facts.filterMap SymbolFact.entry?).length ≤ 1) (hfacts : facts'.Perm facts)
    (instructions : List Instruction) :
    (surveyed (SymbolTable.recordAll {} facts').1 instructions).Concurs
      (surveyed (SymbolTable.recordAll {} facts).1 instructions) := by
  have hmem := SymbolTable.mem_names_recordAll_perm h hfacts
  constructor
  · exact SymbolTable.entryPoint?_recordAll_perm h hfacts
  · intro address
    rw [Bool.eq_iff_iff]
    exact hmem address
  · simp only [surveyed_tally, SymbolTable.size_congr hmem]
  · simp only [surveyed_tally]
  · simp only [surveyed_tally]
  · simp only [surveyed_tally, SymbolTable.isUnresolved_congr hmem]

theorem indistinguishable_surveyed {table table' : SymbolTable} (hnames : table'.names = table.names)
    (hentry : table'.entryPoint? = table.entryPoint?) (instructions : List Instruction) :
    (surveyed table' instructions).Indistinguishable (surveyed table instructions) := by
  -- What was stored last is all that may differ, and no answer depends on it.
  obtain ⟨_, last, _⟩ := table
  obtain ⟨names, last', point?⟩ := table'
  subst hnames hentry
  refine ⟨?_, rfl, rfl, rfl, ?_, ?_⟩
  · intro request
    cases request with
    | recordEntryPoint address => cases point? <;> rfl
    | _ => rfl
  · intro tool arguments
    cases tool <;> rfl
  · intro request terminal json
    cases request <;> rfl

theorem build_perm (hentries : (facts.filterMap SymbolFact.entry?).length ≤ 1) (hfacts : facts'.Perm facts)
    (hinstructions : instructions'.Perm instructions) :
    ∃ a b : Survey,
      build (⟨facts, none⟩ : Feed ε SymbolFact) ⟨instructions, none⟩ = .ok a
        ∧ build (⟨facts', none⟩ : Feed ε SymbolFact) ⟨instructions', none⟩ = .ok b
        ∧ b.Concurs a
        ∧ ((facts.filterMap SymbolFact.address?).Nodup →
            b.Indistinguishable a
              ∧ ∀ request, ((SymbolIndex.serveAll {} (facts'.map SymbolFact.request)).serve request).2
                  = ((SymbolIndex.serveAll {} (facts.map SymbolFact.request)).serve request).2)
        ∧ (facts' = facts → b = a) := by
  have hentries' := SymbolTable.length_filterMap_entry?_perm hentries hfacts
  refine ⟨_, _, build_eq_ok hentries instructions, build_eq_ok hentries' instructions', ?_⟩
  rw [surveyed_perm _ hinstructions]
  refine ⟨concurs_surveyed_perm hentries hfacts instructions, ?_, ?_⟩
  · intro hdistinct
    have halike := indistinguishable_surveyed (SymbolTable.names_recordAll_perm hentries hfacts hdistinct)
      (SymbolTable.entryPoint?_recordAll_perm hentries hfacts) instructions
    refine ⟨halike, ?_⟩
    intro request
    rw [SymbolIndex.reply_serveAll, SymbolIndex.reply_serveAll,
      ← SymbolTable.recordAll_eq_serveAll (SymbolTable.recordAll_empty_snd hentries'),
      ← SymbolTable.recordAll_eq_serveAll (SymbolTable.recordAll_empty_snd hentries)]
    exact halike.reply_eq request
  · rintro rfl
    rfl

def shuffledFacts : List SymbolFact :=
  [.symbol 0x1020 "helper", .entry 0x1004, .symbol 0 "puts", .symbol 0x1000 "main", .symbol 0 "exit"]

def shuffledInstructions : List Instruction :=
  [⟨0x1004, 0x1020, true⟩, ⟨0x1024, 0x1000, true⟩, ⟨0x1008, 0x1020, true⟩, ⟨0x10, 0x1000, true⟩]

theorem build_perm_shuffled :
    (shuffledFacts.filterMap SymbolFact.entry?).length ≤ 1
      ∧ (shuffledFacts.filterMap SymbolFact.address?).Nodup
      ∧ ∃ a b : Survey,
          build (⟨shuffledFacts, none⟩ : Feed String SymbolFact) ⟨shuffledInstructions, none⟩ = .ok a
            ∧ build (⟨shuffledFacts.reverse, none⟩ : Feed String SymbolFact) ⟨shuffledInstructions.reverse, none⟩
              = .ok b
            ∧ b.Indistinguishable a := by
  have hentries : (shuffledFacts.filterMap SymbolFact.entry?).length ≤ 1 := by decide
  have hdistinct : (shuffledFacts.filterMap SymbolFact.address?).Nodup := by decide
  refine ⟨hentries, hdistinct, ?_⟩
  obtain ⟨a, b, ha, hb, _, halike, _⟩ := build_perm (ε := String) hentries shuffledFacts.reverse_perm
    shuffledInstructions.reverse_perm
  exact ⟨a, b, ha, hb, (halike hdistinct).1⟩

end Survey

end CallScope
