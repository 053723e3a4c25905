import CallScope.Proofs.SymbolRequests
import Mathlib.Data.List.SplitBy

/-!
This module contains which name an address keeps if several are stored there. The symbols of a history form runs at one
address. Of each run the first name counts, and of all runs at an address the last one.
-/

namespace CallScope.SymbolTable

/--
The symbol that a request stores. A symbol at the undefined address is not stored.
-/
def Request.symbol? : Request → Option Symbol
  | .insert address name => if address = Address.undefined then none else some ⟨address, name⟩
  | _ => none

/--
The maximal runs of neighbours at one address.
-/
def runs (symbols : List Symbol) : List (List Symbol) :=
  symbols.splitBy fun symbol next => symbol.address = next.address

/--
The first symbol of each run in a history of requests.
-/
def firstOfRuns (requests : List Request) : List Symbol :=
  (runs (requests.filterMap Request.symbol?)).filterMap List.head?

/--
The symbol that an address keeps after a history of requests.
-/
def kept? (requests : List Request) (address : Address) : Option Symbol :=
  ((firstOfRuns requests).filter (·.address = address)).getLast?

variable {table : SymbolTable} {address : Address}

def insertAll (table : SymbolTable) (symbols : List Symbol) : SymbolTable :=
  symbols.foldl (fun table symbol => table.insert symbol.address symbol.name) table

theorem insertAll_cons (table : SymbolTable) (symbol : Symbol) (symbols : List Symbol) :
    table.insertAll (symbol :: symbols) = (table.insert symbol.address symbol.name).insertAll symbols := by
  rfl

theorem insertAll_append (table : SymbolTable) (symbols others : List Symbol) :
    table.insertAll (symbols ++ others) = (table.insertAll symbols).insertAll others := by
  apply List.foldl_append

theorem insert_of_lastStored_ne (hdefined : address ≠ 0) (hlast : table.lastStored ≠ some address) (name : String) :
    table.insert address name
      = { table with names := table.names.insert address name, lastStored := some address } := by
  exact if_neg (not_or.mpr ⟨hdefined, hlast⟩)

theorem insert_insert_self (table : SymbolTable) (address : Address) (name other : String) :
    (table.insert address name).insert address other = table.insert address name := by
  unfold insert
  split
  · rfl
  · simp

theorem insertAll_of_run (first : Symbol) {rest : List Symbol} (h : ∀ symbol ∈ rest, symbol.address = first.address) :
    table.insertAll (first :: rest) = table.insert first.address first.name := by
  induction rest with
  | nil => rfl
  | cons second rest ih =>
    have hsecond := h second List.mem_cons_self
    rw [insertAll_cons, insertAll_cons, hsecond, insert_insert_self]
    apply ih
    intro symbol hsymbol
    exact h symbol (List.mem_cons_of_mem second hsymbol)

theorem address_eq_of_isChain {first : Symbol} {rest : List Symbol}
    (h : (first :: rest).IsChain fun symbol next => symbol.address = next.address) :
    ∀ symbol ∈ first :: rest, symbol.address = first.address := by
  induction rest generalizing first with
  | nil => simp
  | cons second rest ih =>
    obtain ⟨hfirst, hrest⟩ := List.isChain_cons_cons.mp h
    rw [List.forall_mem_cons]
    refine ⟨rfl, ?_⟩
    intro symbol hsymbol
    rw [ih hrest symbol hsymbol, hfirst]

theorem insertAll_flatten {groups : List (List Symbol)}
    (h : ∀ group ∈ groups, group.IsChain fun symbol next => symbol.address = next.address) :
    table.insertAll groups.flatten = table.insertAll (groups.filterMap List.head?) := by
  induction groups generalizing table with
  | nil => rfl
  | cons group groups ih =>
    obtain ⟨hgroup, hgroups⟩ := List.forall_mem_cons.mp h
    rw [List.flatten_cons, insertAll_append, ih hgroups]
    cases group with
    | nil => rfl
    | cons first rest =>
      rw [insertAll_of_run first (List.forall_mem_cons.mp (address_eq_of_isChain hgroup)).2]
      rfl

theorem insertAll_runs (table : SymbolTable) (symbols : List Symbol) :
    table.insertAll symbols = table.insertAll ((runs symbols).filterMap List.head?) := by
  rw [← insertAll_flatten, runs, List.flatten_splitBy]
  intro group hgroup
  simpa using List.isChain_of_mem_splitBy hgroup

theorem isChain_heads {groups : List (List Symbol)} (hne : [] ∉ groups)
    (hsame : ∀ group ∈ groups, group.IsChain fun symbol next => symbol.address = next.address)
    (hnext : groups.IsChain fun group next => ∃ h h', (group.getLast h).address ≠ (next.head h').address) :
    (groups.filterMap List.head?).IsChain fun symbol next => symbol.address ≠ next.address := by
  induction groups with
  | nil => simp
  | cons group groups ih =>
    rw [List.mem_cons, not_or] at hne
    obtain ⟨hgroup, hgroups⟩ := List.forall_mem_cons.mp hsame
    obtain ⟨first, rest, rfl⟩ := List.exists_cons_of_ne_nil (Ne.symm hne.1)
    rw [List.filterMap_cons_some (List.head?_cons), List.isChain_cons]
    refine ⟨?_, ih hne.2 hgroups hnext.tail⟩
    cases groups with
    | nil => simp
    | cons next groups =>
      obtain ⟨⟨hlast, hhead, haddress⟩, _⟩ := List.isChain_cons_cons.mp hnext
      obtain ⟨second, others, rfl⟩ := List.exists_cons_of_ne_nil hhead
      rw [address_eq_of_isChain hgroup _ (List.getLast_mem hlast)] at haddress
      simpa using haddress

theorem getElem?_names_insertAll {symbols : List Symbol} (hdefined : ∀ symbol ∈ symbols, symbol.address ≠ 0)
    (hchain : symbols.IsChain fun symbol next => symbol.address ≠ next.address)
    (hlast : ∀ symbol ∈ symbols.head?, table.lastStored ≠ some symbol.address) :
    (table.insertAll symbols).names[address]?
      = ((symbols.filter (·.address = address)).getLast?.map (·.name)).or table.names[address]? := by
  induction symbols generalizing table with
  | nil => rfl
  | cons symbol symbols ih =>
    obtain ⟨hsymbol, hsymbols⟩ := List.forall_mem_cons.mp hdefined
    rw [List.isChain_cons] at hchain
    rw [insertAll_cons, insert_of_lastStored_ne hsymbol (hlast symbol rfl), ih hsymbols hchain.2]
    · rw [List.filter_cons, Std.ExtTreeMap.getElem?_insert]
      by_cases haddress : symbol.address = address
      · simp [haddress, List.getLast?_cons]
      · simp [haddress]
    · intro next hnext
      simpa using hchain.1 next hnext

def withoutEntry (table : SymbolTable) : SymbolTable :=
  { table with entryPoint? := none }

theorem withoutEntry_insert (table : SymbolTable) (address : Address) (name : String) :
    (table.insert address name).withoutEntry = table.withoutEntry.insert address name := by
  unfold insert withoutEntry
  split
  · rfl
  · rfl

theorem withoutEntry_serve (table : SymbolTable) (request : Request) :
    (table.serve request).1.withoutEntry = table.withoutEntry.insertAll request.symbol?.toList := by
  rcases serve_cases table request with ⟨address, name, rfl, hserve⟩ | ⟨hother, hnames, hlast⟩
  · rw [hserve, withoutEntry_insert, Request.symbol?]
    split
    · next hundefined => exact if_pos (.inl hundefined)
    · rfl
  · have hnone : request.symbol? = none := by
      cases request with
      | insert address name => exact absurd rfl (hother address name)
      | _ => rfl
    rw [hnone, withoutEntry, hnames, hlast]
    rfl

theorem withoutEntry_serveAll (table : SymbolTable) (requests : List Request) :
    (table.serveAll requests).withoutEntry
      = table.withoutEntry.insertAll (requests.filterMap Request.symbol?) := by
  induction requests generalizing table with
  | nil => rfl
  | cons request requests ih =>
    rw [serveAll_cons, ih, withoutEntry_serve, ← insertAll_append]
    cases hsymbol : request.symbol? with
    | none => simp [hsymbol]
    | some symbol => simp [hsymbol]

theorem names_serveAll (requests : List Request) :
    (serveAll {} requests).names = (insertAll {} (requests.filterMap Request.symbol?)).names := by
  have h : (serveAll {} requests).withoutEntry.names = _ := congrArg names (withoutEntry_serveAll {} requests)
  exact h

theorem address_ne_zero_of_mem {requests : List Request} {symbol : Symbol}
    (h : symbol ∈ requests.filterMap Request.symbol?) : symbol.address ≠ 0 := by
  obtain ⟨request, _, hsymbol⟩ := List.mem_filterMap.mp h
  cases request with
  | insert address name =>
    rw [Request.symbol?, Option.ite_none_left_eq_some] at hsymbol
    obtain ⟨hdefined, heq⟩ := hsymbol
    cases heq
    exact hdefined
  | _ => cases hsymbol

theorem isChain_firstOfRuns (requests : List Request) :
    (firstOfRuns requests).IsChain fun symbol next => symbol.address ≠ next.address := by
  apply isChain_heads
  · apply List.nil_notMem_splitBy
  · intro group hgroup
    simpa using List.isChain_of_mem_splitBy hgroup
  · have hnext := List.isChain_getLast_head_splitBy
      (fun symbol next : Symbol => decide (symbol.address = next.address)) (requests.filterMap Request.symbol?)
    simp only [decide_eq_false_iff_not] at hnext
    exact hnext

theorem mem_of_mem_firstOfRuns {requests : List Request} {symbol : Symbol} (h : symbol ∈ firstOfRuns requests) :
    symbol ∈ requests.filterMap Request.symbol? := by
  obtain ⟨group, hgroup, hsymbol⟩ := List.mem_filterMap.mp h
  rw [← List.flatten_splitBy _ (requests.filterMap Request.symbol?)]
  exact List.mem_flatten_of_mem hgroup (List.mem_of_mem_head? hsymbol)

theorem getElem?_names_of_history (requests : List Request) (address : Address) :
    (serveAll {} requests).names[address]? = (kept? requests address).map (·.name) := by
  rw [names_serveAll, insertAll_runs, getElem?_names_insertAll]
  · simp [kept?, firstOfRuns]
  · intro symbol hsymbol
    exact address_ne_zero_of_mem (mem_of_mem_firstOfRuns hsymbol)
  · apply isChain_firstOfRuns
  · intro symbol _ hlast
    cases hlast

theorem address_of_kept? {requests : List Request} {symbol : Symbol} (h : kept? requests address = some symbol) :
    symbol.address = address := by
  simpa using (List.mem_filter.mp (List.mem_of_getLast? h)).2

theorem lastStored_insert (table : SymbolTable) (h : address ≠ 0) (name : String) :
    (table.insert address name).lastStored = some address := by
  unfold insert
  split
  · next hdropped => exact hdropped.resolve_left h
  · rfl

theorem lastStored_insertAll (table : SymbolTable) {symbols : List Symbol}
    (hdefined : ∀ symbol ∈ symbols, symbol.address ≠ 0) :
    (table.insertAll symbols).lastStored = (symbols.getLast?.map (·.address)).or table.lastStored := by
  induction symbols generalizing table with
  | nil => rfl
  | cons symbol symbols ih =>
    obtain ⟨hsymbol, hsymbols⟩ := List.forall_mem_cons.mp hdefined
    rw [insertAll_cons, ih _ hsymbols, lastStored_insert _ hsymbol, List.getLast?_cons]
    cases symbols.getLast? with
    | none => rfl
    | some last => rfl

theorem mem_symbols_serveAll_iff {requests : List Request} {symbol : Symbol} :
    symbol ∈ (serveAll {} requests).symbols ↔ kept? requests symbol.address = some symbol := by
  rw [mem_symbols_iff, getElem?_names_of_history, Option.map_eq_some_iff]
  constructor
  · rintro ⟨other, hkept, hname⟩
    rw [hkept]
    cases symbol
    cases other
    cases hname
    cases address_of_kept? hkept
    rfl
  · intro hkept
    exact ⟨symbol, hkept, rfl⟩

theorem names_serveAll_of_symbol? {request : Request} (h : request.symbol? = none) (before after : List Request) :
    (serveAll {} (before ++ request :: after)).names = (serveAll {} (before ++ after)).names := by
  simp [names_serveAll, h]

theorem getElem?_names_of_run {before later : List Request} (hdefined : address ≠ 0) (name : String)
    (hbefore : ∀ symbol ∈ (before.filterMap Request.symbol?).getLast?, symbol.address ≠ address)
    (hlater : ∀ symbol ∈ later.filterMap Request.symbol?, symbol.address = address) :
    (serveAll {} (before ++ .insert address name :: later)).names[address]? = some name := by
  have hsymbol : (Request.insert address name).symbol? = some ⟨address, name⟩ := if_neg hdefined
  have hlast : (insertAll {} (before.filterMap Request.symbol?)).lastStored ≠ some address := by
    rw [lastStored_insertAll _ fun _ => address_ne_zero_of_mem, Option.or_none, ne_eq, Option.map_eq_some_iff]
    rintro ⟨symbol, hsymbol, haddress⟩
    exact hbefore symbol hsymbol haddress
  rw [names_serveAll, List.filterMap_append, List.filterMap_cons_some hsymbol, insertAll_append,
    insertAll_of_run _ hlater, insert_of_lastStored_ne hdefined hlast]
  apply Std.ExtTreeMap.getElem?_insert_self

end CallScope.SymbolTable

namespace CallScope.SymbolIndex

open SymbolTable (Request Reply kept?)

theorem names_serveAll (requests : List Request) :
    (serveAll {} requests).names = (SymbolTable.serveAll {} requests).names := by
  exact congrArg SymbolTable.names (toSymbolTable_serveAll {} requests)

theorem names_keep_history (requests : List Request) :
    (∀ address, (serveAll {} requests).names[address]? = (kept? requests address).map (·.name))
      ∧ (∃ symbols, ((serveAll {} requests).serve .symbols).2 = .symbols symbols
          ∧ ∀ symbol, symbol ∈ symbols ↔ kept? requests symbol.address = some symbol)
      ∧ (∀ before request after, request.symbol? = none →
          (serveAll {} (before ++ request :: after)).names = (serveAll {} (before ++ after)).names)
      ∧ ∀ before address name later, address ≠ 0 →
          (∀ symbol ∈ (before.filterMap Request.symbol?).getLast?, symbol.address ≠ address) →
          (∀ symbol ∈ later.filterMap Request.symbol?, symbol.address = address) →
          (serveAll {} (before ++ .insert address name :: later)).names[address]? = some name := by
  simp only [names_serveAll, reply_serveAll]
  refine ⟨?_, ⟨_, rfl, ?_⟩, ?_, ?_⟩
  · apply SymbolTable.getElem?_names_of_history
  · intro symbol
    apply SymbolTable.mem_symbols_serveAll_iff
  · intro before request after hrequest
    exact SymbolTable.names_serveAll_of_symbol? hrequest before after
  · intro before address name later hdefined hbefore hlater
    exact SymbolTable.getElem?_names_of_run hdefined name hbefore hlater

-- Neither the undefined symbol nor the question ends the first run. The second run at the address begins with `main`.
def aliasedRequests : List Request :=
  [.insert 0x1000 "_start", .insert 0 "puts", .floor 0x1000, .insert 0x1000 "start", .insert 0x1020 "helper"]

theorem names_keep_history_aliased :
    (serveAll {} aliasedRequests).names[(0x1000 : Address)]? = some "_start"
      ∧ (serveAll {} (aliasedRequests ++ [.insert 0x1000 "main", .symbols, .insert 0x1000 "entry"])).names[
          (0x1000 : Address)]? = some "main" := by
  obtain ⟨hnames, _, _, hrun⟩ := names_keep_history aliasedRequests
  constructor
  · rw [hnames]
    decide
  · apply hrun aliasedRequests 0x1000 "main" [.symbols, .insert 0x1000 "entry"]
    · decide
    · decide
    · decide

end CallScope.SymbolIndex
