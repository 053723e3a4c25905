import CallScope.Proofs.SurveyHistory
import CallScope.Proofs.SymbolRequests

/-!
This module contains the proof that a survey on an index of symbols is a survey on a symbol table. Whatever is loaded,
both come to the same calls, counts, notices and fault, and afterwards the index replies to each request as the table
does. So what is proved about surveys holds of those on an index as well.
-/

namespace CallScope

namespace SymbolIndex

theorem recordAll_eq (index : SymbolIndex) (facts : List SymbolFact) :
    (index.recordAll facts).1.toSymbolTable = (index.toSymbolTable.recordAll facts).1
      ∧ (index.recordAll facts).2 = (index.toSymbolTable.recordAll facts).2 := by
  induction facts generalizing index with
  | nil => exact ⟨rfl, rfl⟩
  | cons fact facts ih =>
    cases fact with
    | symbol address name =>
      have h := ih (index.serve (.insert address name)).1
      rw [(serve_eq index (.insert address name)).1] at h
      exact h
    | entry address =>
      obtain ⟨hnext, hreply⟩ := serve_eq index (.recordEntryPoint address)
      rw [recordAll, SymbolTable.recordAll, SymbolTable.record]
      simp only [SymbolFact.request, SymbolTable.serve] at hnext hreply ⊢
      generalize index.serve (.recordEntryPoint address) = served at hnext hreply ⊢
      obtain ⟨next, reply⟩ := served
      cases hrecord : index.toSymbolTable.recordEntryPoint address with
      | ok table =>
        simp only [hrecord] at hnext hreply
        subst hnext hreply
        exact ih next
      | error fault =>
        simp only [hrecord] at hnext hreply
        subst hreply
        exact ⟨hnext, rfl⟩

theorem serve_nameAt (index : SymbolIndex) (address : Address) :
    ∃ next, index.serve (.nameAt address) = (next, .name (index.toSymbolTable.nameAt? address))
      ∧ next.toSymbolTable = index.toSymbolTable := by
  obtain ⟨hnext, hreply⟩ := serve_eq index (.nameAt address)
  exact ⟨_, Prod.ext rfl hreply, hnext⟩

theorem edge_eq (index : SymbolIndex) (instruction : Instruction) :
    (index.edge instruction).1.toSymbolTable = index.toSymbolTable
      ∧ (index.edge instruction).2 = index.toSymbolTable.edge? instruction := by
  obtain ⟨next, hsource, hnext⟩ := serve_nameAt index instruction.source
  obtain ⟨last, htarget, hlast⟩ := serve_nameAt next instruction.target
  rw [hnext] at htarget hlast
  unfold edge SymbolTable.edge?
  rw [hsource]
  cases index.toSymbolTable.nameAt? instruction.source with
  | none => exact ⟨hnext, rfl⟩
  | some caller =>
    simp only [htarget]
    cases index.toSymbolTable.nameAt? instruction.target with
    | none => exact ⟨hlast, rfl⟩
    | some callee => exact ⟨hlast, rfl⟩

end SymbolIndex

def Progress.map {σ τ ε : Type} (view : σ → τ) (progress : Progress σ ε) : Progress τ ε where
  survey := view progress.survey
  notices := progress.notices
  fault? := progress.fault?

/--
If a view of surveys goes along with one step, then it goes along with the loop over the instructions.
-/
theorem Survey.traceBy_view {σ τ : Type} {view : σ → τ} {step : σ → Instruction → σ × Option Notice}
    {viewed : τ → Instruction → τ × Option Notice}
    (hstep : ∀ survey instruction, viewed (view survey) instruction
      = (view (step survey instruction).1, (step survey instruction).2))
    (start : σ) (instructions : List Instruction) :
    traceBy viewed (view start) instructions
      = (view (traceBy step start instructions).1, (traceBy step start instructions).2) := by
  induction instructions generalizing start with
  | nil => rfl
  | cons instruction instructions ih => rw [traceBy_cons, traceBy_cons, hstep, ih]

namespace IndexedSurvey

variable {ε : Type}

theorem toSurvey_table (survey : IndexedSurvey) : survey.toSurvey.table = survey.index.toSymbolTable := by
  rfl

theorem toSurvey_phase (survey : IndexedSurvey) : survey.toSurvey.phase = survey.phase := by
  rfl

theorem toSurvey_step (survey : IndexedSurvey) (instruction : Instruction) :
    survey.toSurvey.step instruction = ((survey.step instruction).1.toSurvey, (survey.step instruction).2) := by
  obtain ⟨htable, hedge⟩ := survey.index.edge_eq instruction
  unfold step Survey.step
  rw [toSurvey_table, ← hedge]
  generalize survey.index.edge instruction = found at htable
  obtain ⟨index, edge?⟩ := found
  replace htable : index.toSymbolTable = survey.index.toSymbolTable := htable
  split
  · cases edge? with
    | none => simp only [toSurvey, htable]
    | some edge => simp only [toSurvey, htable]
  · rfl

theorem toSurvey_loadSymbols (survey : IndexedSurvey) (feed : Feed ε SymbolFact) :
    (survey.loadSymbols feed).map toSurvey = survey.toSurvey.loadSymbols feed := by
  obtain ⟨htable, hfault⟩ := survey.index.recordAll_eq feed.items
  have hsize := (survey.index.recordAll feed.items).1.size_addresses
  unfold loadSymbols Survey.loadSymbols
  rw [toSurvey_phase, toSurvey_table]
  generalize survey.index.recordAll feed.items = recorded at htable hfault hsize
  generalize survey.index.toSymbolTable.recordAll feed.items = viewed at htable hfault
  obtain ⟨index, fault?⟩ := recorded
  obtain ⟨table, _⟩ := viewed
  subst htable hfault
  cases survey.phase with
  | instructions => rfl
  | ready => rfl
  | symbols =>
    cases fault? with
    | some fault => rfl
    | none =>
      cases feed.failure? with
      | some failure => rfl
      | none =>
        simp only [hsize]
        rfl

theorem toSurvey_loadInstructions (survey : IndexedSurvey) (feed : Feed ε Instruction) :
    (survey.loadInstructions feed).map toSurvey = survey.toSurvey.loadInstructions feed := by
  let started := { survey with phase := .instructions }
  have htrace : Survey.traceBy Survey.step { survey.toSurvey with phase := .instructions } feed.items
      = ((Survey.traceBy step started feed.items).1.toSurvey, (Survey.traceBy step started feed.items).2) := by
    apply Survey.traceBy_view toSurvey_step started
  unfold loadInstructions Survey.loadInstructions Survey.trace
  rw [toSurvey_phase]
  cases survey.phase with
  | symbols => rfl
  | ready | instructions =>
    simp only [htrace]
    cases feed.failure? with
    | some failure => rfl
    | none => rfl

def perform (survey : IndexedSurvey) : Survey.Request ε → Progress IndexedSurvey ε
  | .symbols feed => survey.loadSymbols feed
  | .instructions feed => survey.loadInstructions feed

def performAll (survey : IndexedSurvey) (requests : List (Survey.Request ε)) : IndexedSurvey :=
  requests.foldl (fun survey request => (survey.perform request).survey) survey

theorem toSurvey_perform (survey : IndexedSurvey) (request : Survey.Request ε) :
    (survey.perform request).map toSurvey = survey.toSurvey.perform request := by
  cases request with
  | symbols feed => exact toSurvey_loadSymbols survey feed
  | instructions feed => exact toSurvey_loadInstructions survey feed

theorem toSurvey_performAll (survey : IndexedSurvey) (requests : List (Survey.Request ε)) :
    (survey.performAll requests).toSurvey = survey.toSurvey.performAll requests := by
  induction requests generalizing survey with
  | nil => rfl
  | cons request requests ih =>
    rw [Survey.performAll_cons, ← toSurvey_perform]
    exact ih (survey.perform request).survey

/--
After any history of requests the next one leads to the same survey, notices and fault on an index as on a table, and
the index replies to whatever it is asked as the table does.
-/
theorem performAll_eq (requests : List (Survey.Request ε)) :
    (∀ request : Survey.Request ε, ((performAll {} requests).perform request).map toSurvey
        = (Survey.performAll {} requests).perform request)
      ∧ ∀ request, ((performAll {} requests).index.serve request).2
        = ((Survey.performAll {} requests).table.serve request).2 := by
  have hsurvey : (performAll {} requests).toSurvey = Survey.performAll {} requests :=
    toSurvey_performAll {} requests
  rw [← hsurvey]
  constructor
  · exact toSurvey_perform (performAll {} requests)
  · intro request
    exact ((performAll {} requests).index.serve_eq request).2

theorem table_of_loadSymbols {feed : Feed ε SymbolFact} (h : (Survey.loadSymbols {} feed).fault? = none) :
    (Survey.loadSymbols {} feed).survey.table = SymbolTable.serveAll {} (feed.items.map SymbolFact.request) := by
  rcases Survey.loadSymbols_cases {} feed with ⟨_, _, hload⟩ | ⟨_, _, _, hload⟩ | ⟨_, hsound, hload⟩
  · simp [hload] at h
  · simp [hload] at h
  · rw [Survey.symbolsFault?, Option.or_eq_none_iff, Option.map_eq_none_iff] at hsound
    rw [hload]
    apply SymbolTable.recordAll_eq_serveAll hsound.1

/--
Once the symbols are complete the index replies as one that has served nothing but their facts, although each lookup
for an instruction was a request as well.
-/
theorem reply_of_loadSymbols {feed : Feed ε SymbolFact} (h : (Survey.loadSymbols {} feed).fault? = none)
    (later : List (Survey.Request ε)) (request : SymbolTable.Request) :
    ((performAll {} (.symbols feed :: later)).index.serve request).2
      = ((SymbolIndex.serveAll {} (feed.items.map SymbolFact.request)).serve request).2 := by
  have htable := (Survey.performAll_of_phase_ne (Survey.phase_ne_of_loadSymbols h) later).1
  rw [(performAll_eq _).2, SymbolIndex.reply_serveAll, ← table_of_loadSymbols h, ← htable]
  rfl

end IndexedSurvey

end CallScope
