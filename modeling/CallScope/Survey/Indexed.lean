import CallScope.Survey.Basic
import CallScope.SymbolTable.Index

/-!
This module contains the survey of a program on an index of its symbols. The index takes each fact and each lookup as a
request, so that it is sorted when the first transfer is looked at.
-/

namespace CallScope

/--
What a fact asks of a store of symbols.
-/
def SymbolFact.request : SymbolFact → SymbolTable.Request
  | .entry address => .recordEntryPoint address
  | .symbol address name => .insert address name

namespace SymbolIndex

def recordAll (index : SymbolIndex) : List SymbolFact → SymbolIndex × Option EntryFault
  | [] => (index, none)
  | fact :: facts =>
    match index.serve fact.request with
    | (index, .refused fault) => (index, some fault)
    | (index, _) => index.recordAll facts

/--
Find the call that an instruction makes. Its target is looked up only if its source belongs to a function.
-/
def edge (index : SymbolIndex) (instruction : Instruction) : SymbolIndex × Option Edge :=
  match index.serve (.nameAt instruction.source) with
  | (index, .name (some caller)) =>
    match index.serve (.nameAt instruction.target) with
    | (index, .name (some callee)) => (index, some ⟨caller, callee⟩)
    | (index, _) => (index, none)
  | (index, _) => (index, none)

end SymbolIndex

structure IndexedSurvey where
  index : SymbolIndex := {}
  graph : CallGraph := ∅
  tally : Tally := {}
  phase : Phase := .symbols

namespace IndexedSurvey

variable {ε : Type}

def toSurvey (survey : IndexedSurvey) : Survey where
  table := survey.index.toSymbolTable
  graph := survey.graph
  tally := survey.tally
  phase := survey.phase

def loadSymbols (survey : IndexedSurvey) (feed : Feed ε SymbolFact) : Progress IndexedSurvey ε :=
  match survey.phase with
  | .instructions => { survey, fault? := some (.order .instructionsLoaded) }
  | .ready => { survey, fault? := some (.order .symbolsLoaded) }
  | .symbols =>
    match survey.index.recordAll feed.items, feed.failure? with
    | (index, some fault), _ => { survey := { survey with index }, fault? := some (.entry fault) }
    | (index, none), some failure => { survey := { survey with index }, fault? := some (.feed failure) }
    | (index, none), none =>
      let size := index.addresses.size
      { survey := { survey with index, phase := .ready, tally := { survey.tally with symbols := size } }
        notices := [.loaded size] }

def step (survey : IndexedSurvey) (instruction : Instruction) : IndexedSurvey × Option Notice :=
  let tally := { survey.tally with instructions := survey.tally.instructions + 1 }
  if instruction.isTransfer then
    let tally := { tally with callSites := tally.callSites + 1 }
    match survey.index.edge instruction with
    | (index, some edge) => ({ survey with index, tally, graph := survey.graph.insert edge }, none)
    | (index, none) =>
      ({ survey with index, tally := { tally with unresolved := tally.unresolved + 1 } },
        some (.unresolved instruction.source instruction.target))
  else ({ survey with tally }, none)

def loadInstructions (survey : IndexedSurvey) (feed : Feed ε Instruction) : Progress IndexedSurvey ε :=
  match survey.phase with
  | .symbols => { survey, fault? := some (.order .symbolsMissing) }
  | _ =>
    let traced := Survey.traceBy step { survey with phase := .instructions } feed.items
    match feed.failure? with
    | some failure => { survey := traced.1, notices := traced.2, fault? := some (.feed failure) }
    | none =>
      let tally := { traced.1.tally with edges := traced.1.graph.numEdges }
      { survey := { traced.1 with tally }
        notices := traced.2
          ++ [.resolved (tally.callSites - tally.unresolved) tally.edges tally.unresolved] }

end IndexedSurvey

end CallScope
