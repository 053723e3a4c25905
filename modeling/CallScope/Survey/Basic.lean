import CallScope.Feed
import CallScope.Survey.Record
import CallScope.Survey.Report

/-!
This module contains the survey of a program. First all symbols go into a table, then each control transfer
whose two ends the table can name becomes a call. The symbols are complete before the first instruction is
looked at, since an address belongs to the nearest symbol below it.
-/

namespace CallScope

inductive OrderFault where
  | symbolsMissing
  | symbolsLoaded
  | instructionsLoaded
  deriving DecidableEq, Repr

def OrderFault.message : OrderFault → String
  | .symbolsMissing => "Symbols must be loaded before instructions"
  | .symbolsLoaded => "Symbols were already loaded"
  | .instructionsLoaded => "Symbols cannot change after instructions were loaded"

/--
Why a part of a survey failed, where `ε` is what can be wrong with its feed.
-/
inductive SurveyFault (ε : Type) where
  | order (fault : OrderFault)
  | entry (fault : EntryFault)
  | feed (failure : ε)
  deriving DecidableEq, Repr

def SurveyFault.message {ε : Type} (feedMessage : ε → String) : SurveyFault ε → String
  | .order fault => fault.message
  | .entry fault => fault.message
  | .feed failure => feedMessage failure

/--
How far a survey has come: the symbols are not complete, they are complete, or instructions have been looked
at as well.
-/
inductive Phase where
  | symbols
  | ready
  | instructions
  deriving DecidableEq, Repr

structure Survey where
  table : SymbolTable := {}
  graph : CallGraph := ∅
  tally : Tally := {}
  phase : Phase := .symbols

/--
A survey after one of its parts, with what was reported meanwhile and what went wrong.
-/
structure Progress (σ ε : Type) where
  survey : σ
  notices : List Notice := []
  fault? : Option (SurveyFault ε) := none

def Progress.result {σ ε : Type} (progress : Progress σ ε) : Except (SurveyFault ε) σ :=
  match progress.fault? with
  | some fault => .error fault
  | none => .ok progress.survey

namespace Survey

variable {ε : Type}

def loadSymbols (survey : Survey) (feed : Feed ε SymbolFact) : Progress Survey ε :=
  match survey.phase with
  | .instructions => { survey, fault? := some (.order .instructionsLoaded) }
  | .ready => { survey, fault? := some (.order .symbolsLoaded) }
  | .symbols =>
    -- Whatever goes wrong, what was read before stays.
    match survey.table.recordAll feed.items, feed.failure? with
    | (table, some fault), _ => { survey := { survey with table }, fault? := some (.entry fault) }
    | (table, none), some failure => { survey := { survey with table }, fault? := some (.feed failure) }
    | (table, none), none =>
      { survey := { survey with table, phase := .ready, tally := { survey.tally with symbols := table.size } }
        notices := [.loaded table.size] }

/--
Look at one instruction. A transfer is a call site, and it is a call if both of its ends belong to functions.
-/
def step (survey : Survey) (instruction : Instruction) : Survey × Option Notice :=
  let tally := { survey.tally with instructions := survey.tally.instructions + 1 }
  if instruction.isTransfer then
    let tally := { tally with callSites := tally.callSites + 1 }
    match survey.table.edge? instruction with
    | some edge => ({ survey with tally, graph := survey.graph.insert edge }, none)
    | none =>
      ({ survey with tally := { tally with unresolved := tally.unresolved + 1 } },
        some (.unresolved instruction.source instruction.target))
  else ({ survey with tally }, none)

-- The notices are collected from last to first.
def look {σ : Type} (step : σ → Instruction → σ × Option Notice) (traced : σ × List Notice)
    (instruction : Instruction) : σ × List Notice :=
  let (next, notice?) := step traced.1 instruction
  (next, notice?.toList ++ traced.2)

/--
Look at instructions one after the other, each of them by `step`.
-/
def traceBy {σ : Type} (step : σ → Instruction → σ × Option Notice) (start : σ) (instructions : List Instruction) :
    σ × List Notice :=
  let traced := instructions.foldl (look step) (start, [])
  (traced.1, traced.2.reverse)

def trace (survey : Survey) (instructions : List Instruction) : Survey × List Notice :=
  traceBy step survey instructions

def loadInstructions (survey : Survey) (feed : Feed ε Instruction) : Progress Survey ε :=
  match survey.phase with
  | .symbols => { survey, fault? := some (.order .symbolsMissing) }
  | _ =>
    let traced := { survey with phase := .instructions }.trace feed.items
    match feed.failure? with
    -- The calls found so far stay, but they are not counted again.
    | some failure => { survey := traced.1, notices := traced.2, fault? := some (.feed failure) }
    | none =>
      let tally := { traced.1.tally with edges := traced.1.graph.numEdges }
      { survey := { traced.1 with tally }
        notices := traced.2
          ++ [.resolved (tally.callSites - tally.unresolved) tally.edges tally.unresolved] }

def build (symbols : Feed ε SymbolFact) (instructions : Feed ε Instruction) : Except (SurveyFault ε) Survey := do
  let ready ← (loadSymbols {} symbols).result
  (ready.loadInstructions instructions).result

end Survey

end CallScope
