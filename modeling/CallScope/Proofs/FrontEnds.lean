import CallScope.Console.Run
import CallScope.Proofs.ReachAnswer

/-!
This module contains the proof that the command line and the service answer alike. They choose the root of a search in
different ways, and agree because no symbol of a listing has an empty name.
-/

namespace CallScope

namespace SymbolListing

theorem name_ne_nil_of_row? {line : List Char} {row : Nat × List Char} (h : row? line = some row) : row.2 ≠ [] := by
  unfold row? at h
  simp only [Option.bind_eq_bind, Option.bind_eq_some_iff] at h
  obtain ⟨_, _, _, _, _, _, _, _, _, _, _, _, _, _, h⟩ := h
  split at h
  · cases h
  · next hname =>
    cases h
    exact hname

variable {address : Address} {name : String}

theorem exists_row_of_readLine {inSymbols : Bool} {line : String}
    (h : (readLine inSymbols line).2 = some (.symbol address name)) :
    ∃ row, row? line.toList = some row ∧ address = row.1 ∧ name = String.ofList row.2 := by
  cases hentry : entryAddress? line.toList with
  | some entry =>
    rw [readLine_of_entry hentry] at h
    cases h
  | none =>
    cases hheading : isHeading line.toList with
    | true =>
      rw [readLine_of_heading hentry hheading] at h
      cases h
    | false =>
      rw [readLine_of_body hentry hheading, Option.ite_none_right_eq_some, Option.map_eq_some_iff] at h
      obtain ⟨_, row, hrow, hfact⟩ := h
      cases hfact
      exact ⟨row, hrow, rfl, rfl⟩

theorem readLines.exists_of_mem_go {inSymbols : Bool} {lines : List String} {fact? : Option SymbolFact}
    (h : fact? ∈ go inSymbols lines) : ∃ opened line, (readLine opened line).2 = fact? := by
  induction lines generalizing inSymbols with
  | nil => cases h
  | cons line lines ih =>
    rcases List.mem_cons.mp h with rfl | h
    · exact ⟨inSymbols, line, rfl⟩
    · exact ih h

theorem exists_row_of_mem_facts {lines : List String} (h : .symbol address name ∈ facts lines) :
    ∃ line row, row? line = some row ∧ address = row.1 ∧ name = String.ofList row.2 := by
  obtain ⟨_, hmem, rfl⟩ := List.mem_filterMap.mp h
  obtain ⟨_, line, hread⟩ := readLines.exists_of_mem_go hmem
  exact ⟨line.toList, exists_row_of_readLine hread⟩

theorem name_ne_empty_of_mem_facts {lines : List String} (h : .symbol address name ∈ facts lines) : name ≠ "" := by
  obtain ⟨_, _, hrow, _, rfl⟩ := exists_row_of_mem_facts h
  simpa using name_ne_nil_of_row? hrow

end SymbolListing

namespace SymbolTable

theorem getElem?_names_insert {table : SymbolTable} {a address : Address} {n name : String}
    (h : (table.insert a n).names[address]? = some name) :
    table.names[address]? = some name ∨ (a, n) = (address, name) := by
  unfold insert at h
  split at h
  · exact .inl h
  · rw [Std.ExtTreeMap.getElem?_insert] at h
    split at h
    · next heq =>
      cases h
      exact .inr (by rw [Std.LawfulEqOrd.eq_of_compare heq])
    · exact .inl h

theorem mem_facts_of_getElem?_names {table : SymbolTable} {facts : List SymbolFact} {address : Address} {name : String}
    (h : (table.recordAll facts).1.names[address]? = some name) :
    table.names[address]? = some name ∨ .symbol address name ∈ facts := by
  induction facts generalizing table with
  | nil => exact .inl h
  | cons fact facts ih =>
    cases fact with
    | entry a =>
      simp only [recordAll, record, recordEntryPoint] at h
      cases hrecorded : table.entryPoint? with
      | some recorded =>
        simp only [hrecorded] at h
        exact .inl h
      | none =>
        simp only [hrecorded] at h
        exact (ih h).imp_right (List.mem_cons_of_mem _)
    | symbol a n =>
      rcases ih h with hinsert | hmem
      · rcases getElem?_names_insert hinsert with hold | hnew
        · exact .inl hold
        · cases hnew
          exact .inr List.mem_cons_self
      · exact .inr (List.mem_cons_of_mem _ hmem)

end SymbolTable

namespace Survey

theorem table_of_ofListings {symbols disassembly : List String} {survey : Survey}
    (h : ofListings symbols disassembly = .ok survey) : survey.table = listedTable symbols := by
  by_cases hentries : (SymbolListing.entryAddresses symbols).length ≤ 1
  · obtain ⟨built, hbuilt, htable, _⟩ := ofListings_eq_ok hentries disassembly
    rw [h] at hbuilt
    cases hbuilt
    exact htable
  -- With two entry points there is no survey.
  · rw [← SymbolTable.entryFault?_eq_none_iff] at hentries
    obtain ⟨fault, hfault⟩ := Option.ne_none_iff_exists'.mp hentries
    have hload := loadSymbols_factFeed_result (⟨symbols, none⟩ : Feed ToolFault String)
    rw [hfault] at hload
    have herror : ofListings symbols disassembly = .error (.entry fault) := by
      show (loadSymbols {} (SymbolListing.factFeed ⟨symbols, none⟩)).result >>= _ = _
      rw [hload]
      rfl
    rw [h] at herror
    cases herror

theorem mem_facts_of_ofListings {symbols disassembly : List String} {survey : Survey}
    (h : ofListings symbols disassembly = .ok survey) {symbol : Symbol} (hsymbol : symbol ∈ survey.table.symbols) :
    .symbol symbol.address symbol.name ∈ SymbolListing.facts symbols := by
  rw [table_of_ofListings h, SymbolTable.mem_symbols_iff] at hsymbol
  rcases SymbolTable.mem_facts_of_getElem?_names hsymbol with hempty | hfact
  · simp at hempty
  · exact hfact

theorem name_ne_empty_of_ofListings {symbols disassembly : List String} {survey : Survey}
    (h : ofListings symbols disassembly = .ok survey) {symbol : Symbol} (hsymbol : symbol ∈ survey.table.symbols) :
    symbol.name ≠ "" := by
  exact SymbolListing.name_ne_empty_of_mem_facts (mem_facts_of_ofListings h hsymbol)

end Survey

def Json.field? (value : Json) (name : String) : Option Json :=
  match value with
  | .obj fields => fields.lookup name
  | _ => none

theorem Console.Invocation.answer_of_load_ok {invocation : Invocation} {loaded : Loaded} {survey : Survey}
    (h : loaded.result = .ok survey) : invocation.answer loaded = invocation.request.answer survey := by
  rw [answer, h]
  rfl

theorem Console.entryFunction?_eq (survey : Survey) : entryFunction? survey = survey.table.entryFunction? := by
  rw [← SymbolTable.bind_toOption_entryPoint, entryFunction?]
  cases survey.table.entryPoint with
  | ok entry => rfl
  | error fault => rfl

namespace Console.Request

/--
What a command answers if it is asked for JSON, before the answer is written.
-/
def value (survey : Survey) (request : Request) : Except Failure Json := do
  request.check
  return (← request.answer survey).json

/--
The exit code of a run that comes to such an answer, and what it prints.
-/
def printed : Except Failure Json → Nat × String
  | .ok json => if json.fits then (0, json.text .oneLine ++ "\n") else (1, "")
  | .error _ => (1, "")

/--
The two front ends agree on a search: neither finds a root, or their answers differ only in that the command line
counts the names that the service lists.
-/
structure ReachAgrees (survey : Survey) (target : String) (root? : Option String) : Prop where
  noRoot_iff : value survey (.reach target root?) = .error .noRoot
    ↔ Service.reach survey (.str target) (.ofOption .str root?) = Service.noRoot
  answer_eq : value survey (.reach target root?) ≠ .error .noRoot →
    ∃ (root rootAddress : Json) (reachable callers : List String),
      value survey (.reach target root?)
          = .ok (.obj [("root", root), ("root_address", rootAddress), ("target", .str target),
              ("reachable", .int reachable.length), ("callers", .strs callers)])
        ∧ Service.reach survey (.str target) (.ofOption .str root?)
          = .obj [("root", root), ("root_address", rootAddress), ("target", .str target),
              ("reachable", .strs reachable), ("callers", .strs callers)]

/--
The two front ends agree on an address: both refuse it, it belongs to no function, or both answer with the same name,
start and offset.
-/
structure LookupAgrees (survey : Survey) (text : String) : Prop where
  invalid_iff : value survey (.lookup text) = .error (.invalidAddress text)
    ↔ Service.lookup survey text = Service.failure ("Invalid address '" ++ text ++ "'")
  null_iff : value survey (.lookup text) = .ok .null ↔ (Service.lookup survey text).field? "function" = some .null
  answer_eq : value survey (.lookup text) ≠ .error (.invalidAddress text) → value survey (.lookup text) ≠ .ok .null →
    ∃ name start offset : Json,
      value survey (.lookup text) = .ok (.obj [("name", name), ("address", start), ("offset", offset)])
        ∧ (Service.lookup survey text).field? "function" = some name
        ∧ (Service.lookup survey text).field? "start" = some start
        ∧ (Service.lookup survey text).field? "offset" = some offset

theorem value_lookup_of_literal? {text : String} {address : Address} (h : Numeral.literal? text = some address)
    (survey : Survey) : value survey (.lookup text) = .ok (Answer.location (survey.locate address)).json := by
  simp only [value, check, answer, readAddress, h]
  rfl

theorem lookupAgrees (survey : Survey) (text : String) : LookupAgrees survey text := by
  cases hliteral : Numeral.literal? text with
  | none =>
    have hvalue : value survey (.lookup text) = .error (.invalidAddress text) := by
      simp only [value, check, readAddress, hliteral]
      rfl
    have hservice : Service.lookup survey text = .obj [("error", .str ("Invalid address '" ++ text ++ "'"))] := by
      simp only [Service.lookup, hliteral, Service.failure]
    constructor <;> simp [hvalue, hservice, Service.failure, Json.field?, List.lookup_cons]
  | some address =>
    have hvalue := value_lookup_of_literal? hliteral survey
    have hservice : Service.lookup survey text = Service.location (survey.locate address) := by
      simp only [Service.lookup, hliteral]
    generalize survey.locate address = location at hvalue hservice
    obtain ⟨address, symbol?⟩ := location
    cases symbol? with
    | none =>
      constructor <;> simp [hvalue, hservice, Answer.json, Service.location, Service.failure, Json.field?,
        List.lookup_cons]
    | some symbol =>
      constructor <;> simp [hvalue, hservice, Answer.json, Service.location, Service.failure, Json.field?,
        List.lookup_cons]

theorem chooseRoot_eq {root? : Option String} (h : root? ≠ some "") (survey : Survey) :
    Service.chooseRoot survey (.ofOption .str root?) = (chooseRoot survey root?).map .str := by
  cases root? with
  | none =>
    rw [chooseRoot, entryFunction?_eq]
    exact Service.chooseRoot_null survey
  | some root =>
    have hroot : root ≠ "" := fun heq => h (congrArg some heq)
    simp [Service.chooseRoot, chooseRoot, Json.ofOption, Option.filter, hroot]

theorem reachAgrees (survey : Survey) (target : String) {root? : Option String} (h : root? ≠ some "") :
    ReachAgrees survey target root? := by
  cases hroot : chooseRoot survey root? with
  | none =>
    have hvalue : value survey (.reach target root?) = .error .noRoot := by
      simp only [value, check, answer, hroot]
      rfl
    have hservice : Service.reach survey (.str target) (.ofOption .str root?) = Service.noRoot := by
      simp only [Service.reach, chooseRoot_eq h, hroot, Option.map_none]
      rfl
    constructor <;> simp [hvalue, hservice]
  | some root =>
    have hvalue : value survey (.reach target root?)
        = .ok (Answer.reach root target (survey.reach (some root) (some target))).json := by
      simp only [value, check, answer, hroot]
      rfl
    have hservice : Service.reach survey (.str target) (.ofOption .str root?)
        = Service.reach survey (.str target) (.str root) := by
      simp only [Service.reach, chooseRoot_eq h, hroot, Option.map_some]
      rfl
    constructor
    · rw [hvalue, hservice]
      simp [Service.reach, Service.chooseRoot, Service.noRoot, Service.failure]
    · intro _
      exact ⟨.str root, _, _, _, hvalue, hservice⟩

theorem run_of_load {invocation : Invocation} {host : Host} {survey : Survey} (terminal : Terminal)
    (hjson : invocation.json = true)
    (hload : (host.load invocation.tools invocation.binary).result = .ok survey) :
    ((invocation.run terminal host).exitCode, (invocation.run terminal host).stdout)
      = printed (value survey invocation.request) := by
  simp only [Invocation.run, value, Invocation.answer_of_load_ok hload, hjson]
  cases invocation.request.check with
  | error failure => rfl
  | ok _ =>
    cases invocation.request.answer survey with
    | error failure => rfl
    | ok answer =>
      by_cases hfits : answer.json.fits = true
      · simp [printed, bind, Except.bind, pure, Except.pure, Answer.outcome, Answer.print, hfits]
      · simp [printed, bind, Except.bind, pure, Except.pure, Answer.outcome, Answer.print, hfits]

/--
The two front ends agree on a survey, whatever they are asked. A root that is given to both must not be empty, which
the name of a symbol never is.
-/
structure Agree (survey : Survey) : Prop where
  run_eq : ∀ (invocation : Invocation) (terminal : Terminal) (host : Host), invocation.json = true →
    (host.load invocation.tools invocation.binary).result = .ok survey →
      ((invocation.run terminal host).exitCode, (invocation.run terminal host).stdout)
        = printed (value survey invocation.request)
  callers_eq : ∀ name, value survey (.callers name) = .ok (Service.callers survey (.str name))
  callees_eq : ∀ name, value survey (.callees name) = .ok (Service.callees survey (.str name))
  lookup : ∀ text, LookupAgrees survey text
  reach : ∀ target root?, root? ≠ some "" → ReachAgrees survey target root?
  name_ne_empty : ∀ symbol ∈ survey.table.symbols, symbol.name ≠ ""
  reach_symbol : ∀ target, ∀ symbol ∈ survey.table.symbols, ReachAgrees survey target (some symbol.name)
  stats : ∃ printed served, value survey .stats = .ok (.obj printed) ∧ Service.stats survey = .obj served
    ∧ served ⊆ printed ∧ (printed.map (·.1)).Nodup

theorem agree_of_ofListings {symbols disassembly : List String} {survey : Survey}
    (h : Survey.ofListings symbols disassembly = .ok survey) : Agree survey where
  run_eq _ terminal _ hjson hload := run_of_load terminal hjson hload
  callers_eq _ := rfl
  callees_eq _ := rfl
  lookup := lookupAgrees survey
  reach target _ hroot := reachAgrees survey target hroot
  name_ne_empty _ hsymbol := Survey.name_ne_empty_of_ofListings h hsymbol
  reach_symbol target symbol hsymbol := by
    apply reachAgrees
    simpa using Survey.name_ne_empty_of_ofListings h hsymbol
  stats := ⟨_, _, rfl, rfl, by simp, by simp⟩

theorem agree_of_ofListings_mutual :
    ∃ survey, Survey.ofListings Service.mutualSymbols Service.mutualDisassembly = .ok survey ∧ Agree survey
      ∧ ⟨0x1020, "helper"⟩ ∈ survey.table.symbols ∧ ReachAgrees survey "main" (some "helper") := by
  obtain ⟨survey, hsurvey, htable, _⟩ :=
    @Survey.ofListings_eq_ok Service.mutualSymbols (by decide +kernel) Service.mutualDisassembly
  have hagree := agree_of_ofListings hsurvey
  have hsymbol : ⟨0x1020, "helper"⟩ ∈ survey.table.symbols := by
    rw [htable]
    decide +kernel
  exact ⟨survey, hsurvey, hagree, hsymbol, hagree.reach_symbol "main" _ hsymbol⟩

end Console.Request

end CallScope
