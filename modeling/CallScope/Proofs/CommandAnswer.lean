import CallScope.Proofs.JsonText
import CallScope.Proofs.SurveySize

/-!
This module contains what a command answers from a survey. Rules say which answer there is to a request and, on their
own, which JSON value reports it. Each number in such a value is short enough to be written.
-/

namespace CallScope.Console

/--
The root that a search is given is missing or empty, so that the entry point takes its place.
-/
def IsRootless (root? : Option String) : Prop :=
  root? = none ∨ root? = some ""

/--
The root that a search begins at: the one that is given, or else the function of the entry point.
-/
inductive IsRoot (survey : Survey) : Option String → String → Prop where
  | given {root : String} (hroot : root ≠ "") : IsRoot survey (some root) root
  | entry {root? : Option String} {entry : Address} {root : String} (hroot : IsRootless root?)
      (hentry : survey.table.entryPoint? = some entry) (hname : survey.table.BelongsTo entry root) :
    IsRoot survey root? root

/--
What is answered from a survey.
-/
inductive Answers (survey : Survey) : Request → Answer → Prop where
  | stats : Answers survey .stats (.stats survey)
  | lookup {text : String} {address : Address} (htext : Numeral.literal? text = some address) :
    Answers survey (.lookup text) (.location (survey.locate address))
  | callers {name : String} : Answers survey (.callers name) (.callers name (survey.graph.callers name))
  | callees {name : String} : Answers survey (.callees name) (.callees name (survey.graph.callees name))
  | reach {target root : String} {root? : Option String} (hroot : IsRoot survey root? root) :
    Answers survey (.reach target root?) (.reach root target (survey.reach (some root) (some target)))

/--
Exactly the names with some property, in ascending order.
-/
structure Lists (p : String → Prop) (names : List String) : Prop where
  pairwise : names.Pairwise (· < ·)
  mem_iff : ∀ name, name ∈ names ↔ p name

/--
The JSON value that reports the answer to a request. It is determined by the symbols, the calls and the counts of the
survey.
-/
inductive Reports (survey : Survey) : Request → Json → Prop where
  | stats {functions : List String} {entryFunction? : Option String}
      (hfunctions : Lists (fun name => ∃ edge ∈ survey.graph, edge.caller = name ∨ edge.callee = name) functions)
      (hentry : ∀ name, entryFunction? = some name
        ↔ ∃ entry, survey.table.entryPoint? = some entry ∧ survey.table.BelongsTo entry name) :
    Reports survey .stats (.obj [("symbols", .int survey.tally.symbols),
      ("instructions", .int survey.tally.instructions), ("call_sites", .int survey.tally.callSites),
      ("unresolved", .int survey.tally.unresolved), ("functions", .int functions.length),
      ("edges", .int survey.tally.edges), ("entry_point", .ofAddress? survey.table.entryPoint?),
      ("entry_function", .ofOption .str entryFunction?)])
  | nothing {text : String} {address : Address} (htext : Numeral.literal? text = some address)
      (habove : ∀ symbol ∈ survey.table.symbols, address < symbol.address) :
    Reports survey (.lookup text) .null
  | symbol {text : String} {address : Address} {symbol : Symbol} (htext : Numeral.literal? text = some address)
      (hsymbol : survey.table.IsFloor address symbol) :
    Reports survey (.lookup text) (.obj [("name", .str symbol.name), ("address", .str symbol.address.text),
      ("offset", .int (address - symbol.address))])
  | callers {name : String} {callers : List String}
      (hcallers : Lists (fun caller => ⟨caller, name⟩ ∈ survey.graph) callers) :
    Reports survey (.callers name) (.obj [("name", .str name), ("callers", .strs callers)])
  | callees {name : String} {callees : List String}
      (hcallees : Lists (fun callee => ⟨name, callee⟩ ∈ survey.graph) callees) :
    Reports survey (.callees name) (.obj [("name", .str name), ("callees", .strs callees)])
  | reach {target root : String} {root? : Option String} {reachable callers : List String}
      (hroot : IsRoot survey root? root)
      (hreachable : Lists (Relation.TransGen (fun caller callee => ⟨caller, callee⟩ ∈ survey.graph) root) reachable)
      (hcallers : Lists (fun caller => caller ∈ reachable ∧ ⟨caller, target⟩ ∈ survey.graph) callers) :
    Reports survey (.reach target root?) (.obj [("root", .str root),
      ("root_address", .ofAddress? (survey.table.addressOf? root)), ("target", .str target),
      ("reachable", .int reachable.length), ("callers", .strs callers)])

variable {survey : Survey} {request : Request} {answer : Answer}

theorem entryFunction?_eq_some_iff {name : String} :
    survey.table.entryFunction? = some name
      ↔ ∃ entry, survey.table.entryPoint? = some entry ∧ survey.table.BelongsTo entry name := by
  simp only [SymbolTable.entryFunction?, Option.bind_eq_some_iff, SymbolTable.nameAt?_eq_some_iff]

theorem chooseRoot_of_isRootless {root? : Option String} (h : IsRootless root?) (survey : Survey) :
    chooseRoot survey root? = survey.table.entryFunction? := by
  rw [← entryFunction?_eq]
  rcases h with rfl | rfl
  · rfl
  · rfl

theorem IsRoot.chooseRoot_eq {root? : Option String} {root : String} (h : IsRoot survey root? root) :
    chooseRoot survey root? = some root := by
  cases h with
  | given hroot => simp [chooseRoot, Option.filter, hroot]
  | entry hroot hentry hname =>
    rw [chooseRoot_of_isRootless hroot]
    exact entryFunction?_eq_some_iff.mpr ⟨_, hentry, hname⟩

theorem isRootless_or (root? : Option String) : IsRootless root? ∨ ∃ root, root? = some root ∧ root ≠ "" := by
  cases root? with
  | none => exact .inl (.inl rfl)
  | some root =>
    by_cases hroot : root = ""
    · exact .inl (.inr (congrArg some hroot))
    · exact .inr ⟨root, rfl, hroot⟩

theorem check_eq_ok (h : ∀ text, request = .lookup text → Numeral.literal? text ≠ none) : request.check = .ok () := by
  cases request with
  | lookup text =>
    obtain ⟨address, htext⟩ := Option.ne_none_iff_exists'.mp (h text rfl)
    simp [Request.check, readAddress, htext, Except.map]
  | _ => rfl

namespace Answers

theorem check_eq (h : Answers survey request answer) : request.check = .ok () := by
  apply check_eq_ok
  rintro text rfl
  cases h with
  | lookup htext => simp [htext]

theorem answer_eq (h : Answers survey request answer) : request.answer survey = .ok answer := by
  cases h with
  | lookup htext => simp [Request.answer, readAddress, htext, Except.map]
  | reach hroot => simp only [Request.answer, hroot.chooseRoot_eq]
  | _ => rfl

theorem reports_location {text : String} {address : Address} (htext : Numeral.literal? text = some address)
    (survey : Survey) : Reports survey (.lookup text) (Answer.location (survey.locate address)).json := by
  unfold Survey.locate
  cases hfloor : survey.table.floor? address with
  | none => exact .nothing htext (SymbolTable.floor?_eq_none_iff.mp hfloor)
  | some symbol => exact .symbol htext (SymbolTable.floor?_eq_some_iff.mp hfloor)

theorem reports (h : Answers survey request answer) : Reports survey request answer.json := by
  have hshows := CallGraph.shows_self survey.graph
  cases h with
  | stats =>
    rw [Answer.json, hshows.numNodes_eq, entryFunction?_eq]
    refine .stats ⟨hshows.pairwise_names, ?_⟩ fun name => entryFunction?_eq_some_iff
    exact hshows.mem_names
  | lookup htext => exact reports_location htext survey
  | callers => exact .callers ⟨hshows.pairwise_callers _, hshows.mem_callers _⟩
  | callees => exact .callees ⟨hshows.pairwise_callees _, hshows.mem_callees _⟩
  | @reach target root _ hroot =>
    have hreachable : ∀ name, name ∈ (survey.graph.reachable root).toList
        ↔ Relation.TransGen (fun caller callee => ⟨caller, callee⟩ ∈ survey.graph) root name := by
      intro name
      rw [Std.ExtTreeSet.mem_toList]
      exact CallGraph.mem_reachable_iff_transGen fun _ => Iff.rfl
    have hcallers : ∀ name, name ∈ survey.graph.callersWithin target (survey.graph.reachable root)
        ↔ name ∈ (survey.graph.reachable root).toList ∧ ⟨name, target⟩ ∈ survey.graph := by
      intro name
      rw [CallGraph.mem_callersWithin_iff, Std.ExtTreeSet.mem_toList]
    exact .reach hroot ⟨NameSet.pairwise_toList _, hreachable⟩ ⟨CallGraph.pairwise_callersWithin _ _ _, hcallers⟩

end Answers

theorem Lists.unique {p : String → Prop} {names others : List String} (h : Lists p names) (hother : Lists p others) :
    names = others := by
  have hnodup : ∀ {list : List String}, list.Pairwise (· < ·) → list.Nodup := List.Pairwise.imp String.ne_of_lt
  have hperm : names.Perm others := by
    rw [List.perm_ext_iff_of_nodup (hnodup h.pairwise) (hnodup hother.pairwise)]
    intro name
    rw [h.mem_iff, hother.mem_iff]
  apply hperm.eq_of_pairwise _ h.pairwise hother.pairwise
  intro a b _ _ hab hba
  exact absurd hab (String.lt_asymm hba)

theorem IsRoot.unique {root? : Option String} {root other : String} (h : IsRoot survey root? root)
    (hother : IsRoot survey root? other) : root = other := by
  have hroot := h.chooseRoot_eq
  rw [hother.chooseRoot_eq] at hroot
  exact (Option.some.inj hroot).symm

/--
The rules leave no choice: a request is reported by one value at most.
-/
theorem Reports.unique {value other : Json} (h : Reports survey request value) (hother : Reports survey request other) :
    value = other := by
  cases h with
  | @stats functions name? hfunctions hentry =>
    cases hother with
    | @stats functions' name?' hfunctions' hentry' =>
      have hname : name? = name?' := Option.ext fun name => (hentry name).trans (hentry' name).symm
      rw [hfunctions.unique hfunctions', hname]
  | @nothing text address htext habove =>
    cases hother with
    | nothing _ _ => rfl
    | symbol htext' hsymbol =>
      rw [htext] at htext'
      cases htext'
      rw [← SymbolTable.floor?_eq_none_iff, SymbolTable.floor?_eq_some_iff.mpr hsymbol] at habove
      cases habove
  | @symbol text address found htext hsymbol =>
    rw [← SymbolTable.floor?_eq_some_iff] at hsymbol
    cases hother with
    | nothing htext' habove =>
      rw [htext] at htext'
      cases htext'
      rw [SymbolTable.floor?_eq_none_iff.mpr habove] at hsymbol
      cases hsymbol
    | symbol htext' hsymbol' =>
      rw [htext] at htext'
      cases htext'
      rw [SymbolTable.floor?_eq_some_iff.mpr hsymbol'] at hsymbol
      cases hsymbol
      rfl
  | callers hcallers =>
    cases hother with
    | callers hcallers' => rw [hcallers.unique hcallers']
  | callees hcallees =>
    cases hother with
    | callees hcallees' => rw [hcallees.unique hcallees']
  | reach hroot hreachable hcallers =>
    cases hother with
    | reach hroot' hreachable' hcallers' =>
      cases hroot.unique hroot'
      cases hreachable.unique hreachable'
      rw [hcallers.unique hcallers']

theorem Reports.exists_answers {value : Json} (h : Reports survey request value) :
    ∃ answer, Answers survey request answer ∧ answer.json = value := by
  have hanswers : ∃ answer, Answers survey request answer := by
    cases h with
    | stats _ _ => exact ⟨_, .stats⟩
    | nothing htext _ => exact ⟨_, .lookup htext⟩
    | symbol htext _ => exact ⟨_, .lookup htext⟩
    | callers _ => exact ⟨_, .callers⟩
    | callees _ => exact ⟨_, .callees⟩
    | reach hroot _ _ => exact ⟨_, .reach hroot⟩
  obtain ⟨answer, hanswer⟩ := hanswers
  exact ⟨answer, hanswer, hanswer.reports.unique h⟩

end CallScope.Console
