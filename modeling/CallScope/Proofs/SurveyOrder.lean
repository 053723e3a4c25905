import CallScope.Proofs.SurveyHistory
import Mathlib.Data.List.Induction

/-!
This module contains when a part of a survey is refused because it comes too early or too late, over all histories of
requests, and that a refused request leaves no trace.
-/

namespace CallScope

namespace Progress

variable {ε : Type}

/--
The part of the survey was refused because of its place in the order.
-/
def IsRefused (progress : Progress Survey ε) : Prop :=
  ∃ fault, progress.fault? = some (.order fault)

def IsRefusedWith (progress : Progress Survey ε) (text : String) : Prop :=
  ∃ fault, progress.fault? = some (.order fault) ∧ fault.message = text

end Progress

/--
Why a survey takes no more symbols.
-/
def Phase.symbolsRefusal? : Phase → Option OrderFault
  | .symbols => none
  | .ready => some .symbolsLoaded
  | .instructions => some .instructionsLoaded

theorem Phase.symbolsRefusal?_eq_none_iff {phase : Phase} : phase.symbolsRefusal? = none ↔ phase = .symbols := by
  cases phase <;> simp [symbolsRefusal?]

namespace Survey

variable {ε : Type} {survey : Survey}

theorem loadSymbols_of_refusal {fault : OrderFault} (h : survey.phase.symbolsRefusal? = some fault)
    (feed : Feed ε SymbolFact) : survey.loadSymbols feed = { survey, fault? := some (.order fault) } := by
  unfold loadSymbols
  cases hphase : survey.phase with
  | symbols => simp [hphase, Phase.symbolsRefusal?] at h
  | ready => simpa [hphase, Phase.symbolsRefusal?] using h
  | instructions => simpa [hphase, Phase.symbolsRefusal?] using h

theorem symbolsFault?_ne_order (feed : Feed ε SymbolFact) (fault : OrderFault) :
    survey.symbolsFault? feed ≠ some (.order fault) := by
  unfold symbolsFault?
  cases (survey.table.recordAll feed.items).2 with
  | some _ => simp
  | none => simp

theorem loadSymbols_fault?_eq_order_iff {feed : Feed ε SymbolFact} {fault : OrderFault} :
    (survey.loadSymbols feed).fault? = some (.order fault) ↔ survey.phase.symbolsRefusal? = some fault := by
  constructor
  · intro h
    cases hrefusal : survey.phase.symbolsRefusal? with
    | some _ => simpa [loadSymbols_of_refusal hrefusal] using h
    | none =>
      have hphase := Phase.symbolsRefusal?_eq_none_iff.mp hrefusal
      rcases loadSymbols_cases survey feed with ⟨hne, _⟩ | ⟨_, _, hfault, hload⟩ | ⟨_, _, hload⟩
      · exact absurd hphase hne
      · rw [hload] at h
        exact absurd (hfault.trans h) (symbolsFault?_ne_order feed fault)
      · simp [hload] at h
  · intro h
    rw [loadSymbols_of_refusal h]

theorem isRefused_loadSymbols_iff {feed : Feed ε SymbolFact} :
    (survey.loadSymbols feed).IsRefused ↔ survey.phase ≠ .symbols := by
  unfold Progress.IsRefused
  simp only [loadSymbols_fault?_eq_order_iff]
  rw [← Option.isSome_iff_exists, Option.isSome_iff_ne_none, ne_eq, Phase.symbolsRefusal?_eq_none_iff]

theorem isRefused_loadInstructions_iff {feed : Feed ε Instruction} :
    (survey.loadInstructions feed).IsRefused ↔ survey.phase = .symbols := by
  unfold Progress.IsRefused
  rcases loadInstructions_cases survey feed with ⟨hphase, hload⟩ | ⟨hphase, hfault, _⟩
  · simp [hload, hphase]
  · rw [hfault]
    cases feed.failure? with
    | none => simp [hphase]
    | some failure => simp [hphase]

/--
Some request to load instructions was not refused, whatever became of its feed.
-/
def InstructionsAccepted (requests : List (Request ε)) : Prop :=
  ∃ before feed after, requests = before ++ .instructions feed :: after
    ∧ ¬ ((performAll {} before).loadInstructions feed).IsRefused

theorem phase_loadSymbols (survey : Survey) (feed : Feed ε SymbolFact) :
    (survey.loadSymbols feed).survey.phase
      = if (survey.loadSymbols feed).fault? = none then .ready else survey.phase := by
  rcases loadSymbols_cases survey feed with ⟨_, _, hload⟩ | ⟨_, _, _, hload⟩ | ⟨_, _, hload⟩
  · simp [hload]
  · simp [hload]
  · simp [hload]

theorem phase_loadInstructions (survey : Survey) (feed : Feed ε Instruction) :
    (survey.loadInstructions feed).survey.phase = if survey.phase = .symbols then .symbols else .instructions := by
  rcases loadInstructions_cases survey feed with ⟨hphase, hload⟩ | ⟨hphase, _, _, hnext, _⟩
  · simp [hload, hphase]
  · simp [hnext, hphase]

theorem performAll_concat (requests : List (Request ε)) (request : Request ε) :
    survey.performAll (requests ++ [request]) = ((survey.performAll requests).perform request).survey := by
  rw [performAll_append]
  rfl

theorem symbolsCompleted_of_phase_ne {requests : List (Request ε)} (h : (performAll {} requests).phase ≠ .symbols) :
    SymbolsCompleted requests := by
  -- The last request either meets complete symbols, or it is the one that completes them.
  induction requests using List.reverseRecOn with
  | nil => exact absurd rfl h
  | append_singleton requests request ih =>
    rw [performAll_concat] at h
    by_cases hphase : (performAll {} requests).phase = .symbols
    · cases request with
      | instructions feed => simp [perform, phase_loadInstructions, hphase] at h
      | symbols feed =>
        by_cases hfault : ((performAll {} requests).loadSymbols feed).fault? = none
        · exact ⟨requests, feed, [], rfl, hfault⟩
        · simp [perform, phase_loadSymbols, hphase, hfault] at h
    · obtain ⟨before, feed, after, rfl, hfault⟩ := ih hphase
      exact ⟨before, feed, after ++ [request], by simp, hfault⟩

theorem symbolsCompleted_iff {requests : List (Request ε)} :
    SymbolsCompleted requests ↔ (performAll {} requests).phase ≠ .symbols := by
  constructor
  · exact phase_ne_of_symbolsCompleted
  · exact symbolsCompleted_of_phase_ne

theorem instructionsAccepted_of_phase_eq {requests : List (Request ε)}
    (h : (performAll {} requests).phase = .instructions) : InstructionsAccepted requests := by
  induction requests using List.reverseRecOn with
  | nil => cases h
  | append_singleton requests request ih =>
    rw [performAll_concat] at h
    by_cases hphase : (performAll {} requests).phase = .instructions
    · obtain ⟨before, feed, after, rfl, haccepted⟩ := ih hphase
      exact ⟨before, feed, after ++ [request], by simp, haccepted⟩
    · cases request with
      | symbols feed =>
        rw [perform, phase_loadSymbols] at h
        split at h
        · cases h
        · exact absurd h hphase
      | instructions feed =>
        rw [perform, phase_loadInstructions] at h
        split at h
        · cases h
        · next hready => exact ⟨requests, feed, [], rfl, by rwa [isRefused_loadInstructions_iff]⟩

theorem phase_performAll_of_instructions (h : survey.phase = .instructions) (requests : List (Request ε)) :
    (survey.performAll requests).phase = .instructions := by
  induction requests generalizing survey with
  | nil => exact h
  | cons request requests ih =>
    apply ih
    cases request with
    | symbols feed =>
      have hrefused := loadSymbols_of_refusal (by rw [h]; rfl) feed
      simp [perform, hrefused, h]
    | instructions feed => simp [perform, phase_loadInstructions, h]

theorem instructionsAccepted_iff {requests : List (Request ε)} :
    InstructionsAccepted requests ↔ (performAll {} requests).phase = .instructions := by
  constructor
  · rintro ⟨before, feed, after, rfl, haccepted⟩
    rw [isRefused_loadInstructions_iff] at haccepted
    rw [performAll_append, performAll_cons]
    apply phase_performAll_of_instructions
    rw [perform, phase_loadInstructions, if_neg haccepted]
  · exact instructionsAccepted_of_phase_eq

theorem isRefusedWith_instructionsLoaded_iff {feed : Feed ε SymbolFact} :
    (survey.loadSymbols feed).IsRefusedWith "Symbols cannot change after instructions were loaded"
      ↔ survey.phase = .instructions := by
  unfold Progress.IsRefusedWith
  simp only [loadSymbols_fault?_eq_order_iff]
  cases survey.phase <;> simp [Phase.symbolsRefusal?, OrderFault.message]

theorem isRefusedWith_symbolsLoaded_iff {feed : Feed ε SymbolFact} :
    (survey.loadSymbols feed).IsRefusedWith "Symbols were already loaded" ↔ survey.phase = .ready := by
  unfold Progress.IsRefusedWith
  simp only [loadSymbols_fault?_eq_order_iff]
  cases survey.phase <;> simp [Phase.symbolsRefusal?, OrderFault.message]

namespace Request

/--
Two requests for the same part of a survey, which may differ in their feeds.
-/
def SamePart : Request ε → Request ε → Prop
  | .symbols _, .symbols _ => True
  | .instructions _, .instructions _ => True
  | _, _ => False

/--
A request after some others that changes and reports nothing, whatever its feed would give, and without which all
later requests go the same way.
-/
structure LeavesNoTrace (before : List (Request ε)) (request : Request ε) : Prop where
  survey_eq : ((performAll {} before).perform request).survey = performAll {} before
  notices_eq : ((performAll {} before).perform request).notices = []
  unread : ∀ other, request.SamePart other →
    (performAll {} before).perform other = (performAll {} before).perform request
  later_eq : ∀ (later : List (Request ε)) (next : Request ε),
    (performAll {} (before ++ request :: later)).perform next = (performAll {} (before ++ later)).perform next

end Request

theorem perform_of_isRefused {request : Request ε} (h : (survey.perform request).IsRefused) :
    ∃ fault, ∀ other, request.SamePart other → survey.perform other = { survey, fault? := some (.order fault) } := by
  cases request with
  | symbols feed =>
    obtain ⟨fault, hfault⟩ := h
    refine ⟨fault, ?_⟩
    intro other hpart
    cases other with
    | symbols other => exact loadSymbols_of_refusal (loadSymbols_fault?_eq_order_iff.mp hfault) other
    | instructions other => cases hpart
  | instructions feed =>
    refine ⟨.symbolsMissing, ?_⟩
    intro other hpart
    cases other with
    | symbols other => cases hpart
    | instructions other =>
      rcases loadInstructions_cases survey other with ⟨_, hload⟩ | ⟨hphase, _⟩
      · exact hload
      · exact absurd (isRefused_loadInstructions_iff.mp h) hphase

theorem leavesNoTrace_of_isRefused {before : List (Request ε)} {request : Request ε}
    (h : ((performAll {} before).perform request).IsRefused) : request.LeavesNoTrace before := by
  obtain ⟨fault, hrefused⟩ := perform_of_isRefused h
  have hrequest := hrefused request (by cases request <;> trivial)
  refine ⟨?_, ?_, ?_, ?_⟩
  · rw [hrequest]
  · rw [hrequest]
  · intro other hpart
    rw [hrequest, hrefused other hpart]
  · intro later next
    rw [performAll_append, performAll_cons, hrequest, performAll_append]

theorem refusals_of_history (before : List (Request ε)) :
    (∀ feed : Feed ε Instruction, ((performAll {} before).loadInstructions feed).IsRefused ↔ ¬ SymbolsCompleted before)
      ∧ (∀ feed : Feed ε SymbolFact,
          (((performAll {} before).loadSymbols feed).IsRefused ↔ SymbolsCompleted before)
          ∧ (((performAll {} before).loadSymbols feed).IsRefusedWith
                "Symbols cannot change after instructions were loaded"
              ↔ SymbolsCompleted before ∧ InstructionsAccepted before)
          ∧ (((performAll {} before).loadSymbols feed).IsRefusedWith "Symbols were already loaded"
              ↔ SymbolsCompleted before ∧ ¬ InstructionsAccepted before))
      ∧ ∀ request : Request ε, ((performAll {} before).perform request).IsRefused → request.LeavesNoTrace before := by
  rw [symbolsCompleted_iff, instructionsAccepted_iff]
  refine ⟨?_, ?_, ?_⟩
  · intro feed
    rw [isRefused_loadInstructions_iff, ne_eq, not_not]
  · intro feed
    rw [isRefused_loadSymbols_iff, isRefusedWith_instructionsLoaded_iff, isRefusedWith_symbolsLoaded_iff]
    cases (performAll {} before).phase <;> simp
  · intro request
    exact leavesNoTrace_of_isRefused

theorem refusals_of_history_retried :
    ((performAll {} retriedRequests).loadSymbols ⟨[], some "broken"⟩).IsRefusedWith
        "Symbols cannot change after instructions were loaded"
      ∧ Request.LeavesNoTrace retriedRequests (.symbols ⟨[], some "broken"⟩) := by
  obtain ⟨_, hsymbols, htrace⟩ := refusals_of_history retriedRequests
  obtain ⟨hrefused, htext, _⟩ := hsymbols ⟨[], some "broken"⟩
  have hcompleted : SymbolsCompleted retriedRequests := symbolsCompleted_iff.mpr (by decide +kernel)
  have haccepted : InstructionsAccepted retriedRequests := instructionsAccepted_iff.mpr (by decide +kernel)
  exact ⟨htext.mpr ⟨hcompleted, haccepted⟩, htrace (.symbols _) (hrefused.mpr hcompleted)⟩

end Survey

end CallScope
